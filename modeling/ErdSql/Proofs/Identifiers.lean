import ErdSql.Naming.Resolve
import Mathlib.Data.List.TakeWhile
import Mathlib.Tactic.Tauto

/-!
# Names that are used

What the names look like that generated SQL uses without quotes.  The check of identifiers
accepts a letter or underscore followed by letters, digits, underscores and dollar signs, and
also such a text with one line feed at its end.  A name that is found for an element is in lower
case: its letters are small letters of ASCII, even where a prefix brought others.  The line feed
survives, so a name is a legal identifier exactly if it has none.
-/

namespace ErdSql

namespace Text

/-- Whether the character is a capital letter of ASCII. -/
def IsCapital (c : Char) : Prop :=
  'A' ≤ c ∧ c ≤ 'Z'

instance : DecidablePred IsCapital := fun _ => inferInstanceAs (Decidable (_ ∧ _))

theorem isCapital_iff {c : Char} : IsCapital c ↔ 65 ≤ c.toNat ∧ c.toNat ≤ 90 :=
  Iff.rfl

theorem toLower_of_not_isCapital {c : Char} (h : ¬ IsCapital c) : c.toLower = c :=
  dif_neg h

theorem toNat_toLower_of_isCapital {c : Char} (h : IsCapital c) :
    c.toLower.toNat = c.toNat + 32 := by
  have hhigh : c.val.toNat ≤ 90 := h.2
  have hval : c.toLower.val = c.val + 32 := congrArg Char.val (dif_pos h)
  change c.toLower.val.toNat = c.val.toNat + 32
  rw [hval, UInt32.toNat_add]
  simp only [UInt32.reduceToNat]
  omega

theorem not_isCapital_toLower (c : Char) : ¬ IsCapital c.toLower := by
  by_cases h : IsCapital c
  · rw [isCapital_iff, toNat_toLower_of_isCapital h]
    have hlow : 65 ≤ c.toNat := h.1
    omega
  · rwa [toLower_of_not_isCapital h]

/-- The lower-case form of a capital outside ASCII comes after the capitals of ASCII; a number
that is no character stands for the null character. -/
theorem toNat_ofNat_of_lowerOf? {n lower : Nat} {run : CaseRun} (hrun : run ∈ capitalRuns)
    (h : run.lowerOf? n = some lower) :
    90 < (Char.ofNat lower).toNat ∨ (Char.ofNat lower).toNat = 0 := by
  have hbeyond : ∀ run ∈ capitalRuns, 90 < run.lower := by decide +kernel
  have hlower : 90 < lower := by
    have := hbeyond run hrun
    unfold CaseRun.lowerOf? at h
    split at h
    · cases h
      omega
    · cases h
  by_cases hvalid : lower.isValidChar
  · have hchar : Char.ofNat lower = Char.ofNatAux lower hvalid := dif_pos hvalid
    rw [hchar]
    exact Or.inl hlower
  · have hchar : Char.ofNat lower = ⟨0, .inl (by decide)⟩ := dif_neg hvalid
    rw [hchar]
    exact Or.inr rfl

/-- A capital outside ASCII never becomes a capital of ASCII. -/
theorem not_isCapital_of_lowerOf? {n lower : Nat} {run : CaseRun} (hrun : run ∈ capitalRuns)
    (h : run.lowerOf? n = some lower) : ¬ IsCapital (Char.ofNat lower) := by
  have hnumber := toNat_ofNat_of_lowerOf? hrun h
  rw [isCapital_iff]
  omega

theorem not_isCapital_of_mem_lowerChar {c d : Char} (h : d ∈ lowerChar c) : ¬ IsCapital d := by
  unfold lowerChar at h
  split at h
  · rw [List.mem_singleton.1 h]
    exact not_isCapital_toLower c
  · rename_i hascii
    split at h
    · rcases List.mem_cons.1 h with rfl | h
      · decide
      · rw [List.mem_singleton.1 h]
        decide
    · split at h
      · rename_i n hfound
        obtain ⟨run, hrun, hn⟩ := List.exists_of_findSome?_eq_some hfound
        rw [List.mem_singleton.1 h]
        exact not_isCapital_of_lowerOf? hrun hn
      · rw [List.mem_singleton.1 h, isCapital_iff]
        omega

/-- No text in lower case has a capital of ASCII. -/
theorem not_isCapital_of_mem_lowerChars {letterBefore : Bool} {cs : List Char} {d : Char}
    (h : d ∈ lowerChars letterBefore cs) : ¬ IsCapital d := by
  induction cs generalizing letterBefore with
  | nil => cases h
  | cons c cs ih =>
      simp only [lowerChars] at h
      split at h
      · rcases List.mem_cons.1 h with rfl | h
        · split <;> decide
        · exact ih h
      · rcases List.mem_append.1 h with h | h
        · exact not_isCapital_of_mem_lowerChar h
        · exact ih h

/-- A text of ASCII is put into lower case character by character. -/
theorem lowerChars_of_ascii {cs : List Char} (h : ∀ c ∈ cs, c.toNat < 0x80)
    (letterBefore : Bool) : lowerChars letterBefore cs = cs.map Char.toLower := by
  induction cs generalizing letterBefore with
  | nil => rfl
  | cons c cs ih =>
      have hc : c.toNat < 0x80 := h c (List.mem_cons_self ..)
      have hcs : ∀ d ∈ cs, d.toNat < 0x80 := fun d hd => h d (List.mem_cons_of_mem _ hd)
      have hsigma : c ≠ 'Σ' := by
        rintro rfl
        exact absurd hc (by decide)
      rw [lowerChars, if_neg hsigma, lowerChar, if_pos hc, ih hcs, List.map_cons,
        List.singleton_append]

end Text

namespace Naming

open Text

/-- A small letter or an underscore. -/
def IsSmallStart (c : Char) : Prop :=
  ('a' ≤ c ∧ c ≤ 'z') ∨ c = '_'

/-- A small letter, a digit, an underscore or a dollar sign. -/
def IsSmallPart (c : Char) : Prop :=
  IsSmallStart c ∨ ('0' ≤ c ∧ c ≤ '9') ∨ c = '$'

/-- A letter or an underscore. -/
def IsNameStart (c : Char) : Prop :=
  IsSmallStart c ∨ IsCapital c

/-- A letter, a digit, an underscore or a dollar sign. -/
def IsNamePart (c : Char) : Prop :=
  IsSmallPart c ∨ IsCapital c

/-- The text is one character of the first class and any number of the second. -/
def Spells (first rest : Char → Prop) (s : String) : Prop :=
  ∃ c cs, s.toList = c :: cs ∧ first c ∧ ∀ d ∈ cs, rest d

/-- A legal name without quotes. -/
abbrev IsName : String → Prop :=
  Spells IsNameStart IsNamePart

/-- A legal name without quotes in lower case. -/
abbrev IsSmallName : String → Prop :=
  Spells IsSmallStart IsSmallPart

/-- The text has the property, or it has so without a line feed at its end. -/
def UpToLineFeed (P : String → Prop) (s : String) : Prop :=
  P s ∨ ∃ t, P t ∧ s = t ++ "\n"

section Characters

variable {c : Char}

theorem between_iff (low high : Char) :
    (decide (low ≤ c) && decide (c ≤ high)) = true ↔ low ≤ c ∧ c ≤ high := by
  rw [Bool.and_eq_true, decide_eq_true_eq, decide_eq_true_eq]

theorem isLetter_iff : c.isAlpha = true ↔ IsCapital c ∨ ('a' ≤ c ∧ c ≤ 'z') := by
  have hcapital : c.isUpper = true ↔ IsCapital c := decide_eq_true_iff
  have hsmall : c.isLower = true ↔ 'a' ≤ c ∧ c ≤ 'z' := between_iff 'a' 'z'
  rw [← hcapital, ← hsmall]
  exact Bool.or_eq_true_iff

theorem isIdentifierStart_iff : isIdentifierStart c = true ↔ IsNameStart c := by
  simp only [isIdentifierStart, IsNameStart, IsSmallStart, Bool.or_eq_true, beq_iff_eq,
    isLetter_iff]
  tauto

theorem isIdentifierPart_iff : isIdentifierPart c = true ↔ IsNamePart c := by
  have hdigit : c.isDigit = true ↔ '0' ≤ c ∧ c ≤ '9' := between_iff '0' '9'
  simp only [isIdentifierPart, Char.isAlphanum, IsNamePart, IsSmallPart, IsSmallStart,
    Bool.or_eq_true, beq_iff_eq, isLetter_iff, hdigit]
  tauto

theorem toNat_lt_of_isNamePart (h : IsNamePart c) : c.toNat < 0x80 := by
  simp only [IsNamePart, IsSmallPart, IsSmallStart, IsCapital, Char.le_def,
    UInt32.le_iff_toNat_le] at h
  have hnat : c.toNat = c.val.toNat := rfl
  have hz : 'z'.val.toNat = 122 := rfl
  have hcapital : 'Z'.val.toNat = 90 := rfl
  have hdigit : '9'.val.toNat = 57 := rfl
  rcases h with ((h | rfl) | h | rfl) | h
  · omega
  · decide
  · omega
  · decide
  · omega

theorem IsNameStart.isNamePart (h : IsNameStart c) : IsNamePart c :=
  h.imp_left Or.inl

theorem isSmallStart_toLower_of_isCapital (h : IsCapital c) : IsSmallStart c.toLower := by
  have hlow : 65 ≤ c.toNat := h.1
  have hhigh : c.toNat ≤ 90 := h.2
  have hlower : c.toLower.toNat = c.toNat + 32 := toNat_toLower_of_isCapital h
  refine Or.inl ⟨?_, ?_⟩
  · change 97 ≤ c.toLower.toNat
    omega
  · change c.toLower.toNat ≤ 122
    omega

theorem isNameStart_toLower (h : IsNameStart c) : IsNameStart c.toLower := by
  by_cases hcapital : IsCapital c
  · exact Or.inl (isSmallStart_toLower_of_isCapital hcapital)
  · rwa [toLower_of_not_isCapital hcapital]

theorem isNamePart_toLower (h : IsNamePart c) : IsNamePart c.toLower := by
  by_cases hcapital : IsCapital c
  · exact Or.inl (Or.inl (isSmallStart_toLower_of_isCapital hcapital))
  · rwa [toLower_of_not_isCapital hcapital]

end Characters

section Identifiers

theorem isIdentifierTail_iff {cs : List Char} :
    isIdentifierTail cs = true ↔
      (∀ d ∈ cs, IsNamePart d) ∨ ∃ ds, (∀ d ∈ ds, IsNamePart d) ∧ cs = ds ++ ['\n'] := by
  have hpart : ∀ ds : List Char, (∀ d ∈ ds, IsNamePart d) → ∀ d ∈ ds, isIdentifierPart d = true :=
    fun ds h d hd => isIdentifierPart_iff.2 (h d hd)
  have htaken : ∀ d ∈ cs.takeWhile isIdentifierPart, IsNamePart d :=
    fun d hd => isIdentifierPart_iff.1 (List.mem_takeWhile_imp hd)
  have hsplit : cs.takeWhile isIdentifierPart ++ cs.dropWhile isIdentifierPart = cs :=
    List.takeWhile_append_dropWhile
  constructor
  · intro h
    unfold isIdentifierTail at h
    split at h
    · rename_i hrest
      rw [hrest, List.append_nil] at hsplit
      rw [hsplit] at htaken
      exact Or.inl htaken
    · rename_i hrest
      rw [hrest] at hsplit
      exact Or.inr ⟨_, htaken, hsplit.symm⟩
    · cases h
  · rintro (h | ⟨ds, h, rfl⟩)
    · have hrest : cs.dropWhile isIdentifierPart = [] :=
        List.dropWhile_eq_nil_iff.2 (hpart cs h)
      rw [isIdentifierTail, hrest]
    · have hrest : (ds ++ ['\n']).dropWhile isIdentifierPart = ['\n'] := by
        rw [List.dropWhile_append_of_pos (hpart ds h)]
        rfl
      simp only [isIdentifierTail, hrest]

/-- The check accepts the legal names, and those with a line feed at their end. -/
theorem isIdentifier_iff {s : String} : isIdentifier s = true ↔ UpToLineFeed IsName s := by
  unfold isIdentifier
  split
  · rename_i hempty
    constructor
    · nofun
    · rintro (⟨c, cs, hcons, -⟩ | ⟨t, -, rfl⟩)
      · rw [hempty] at hcons
        cases hcons
      · simp [String.toList_append] at hempty
  · rename_i c cs hcons
    rw [Bool.and_eq_true, isIdentifierStart_iff, isIdentifierTail_iff]
    constructor
    · rintro ⟨hstart, htail | ⟨ds, htail, rfl⟩⟩
      · exact Or.inl ⟨c, cs, hcons, hstart, htail⟩
      · refine Or.inr ⟨String.ofList (c :: ds), ⟨c, ds, String.toList_ofList, hstart, htail⟩, ?_⟩
        apply String.toList_inj.1
        rw [hcons, String.toList_append, String.toList_ofList]
        rfl
    · rintro (⟨d, ds, hcons', hstart, htail⟩ | ⟨t, ⟨d, ds, hcons', hstart, htail⟩, rfl⟩)
      · rw [hcons] at hcons'
        cases hcons'
        exact ⟨hstart, Or.inl htail⟩
      · rw [String.toList_append, hcons'] at hcons
        cases hcons
        exact ⟨hstart, Or.inr ⟨ds, htail, rfl⟩⟩

theorem toNat_lt_of_isName {s : String} (h : IsName s) : ∀ c ∈ s.toList, c.toNat < 0x80 := by
  obtain ⟨c, cs, hcons, hstart, hrest⟩ := h
  rw [hcons]
  refine List.forall_mem_cons.2 ⟨toNat_lt_of_isNamePart hstart.isNamePart, fun d hd => ?_⟩
  exact toNat_lt_of_isNamePart (hrest d hd)

theorem toList_lower_of_isIdentifier {s : String} (h : isIdentifier s = true) :
    (lower s).toList = s.toList.map Char.toLower := by
  have hascii : ∀ c ∈ s.toList, c.toNat < 0x80 := by
    rcases isIdentifier_iff.1 h with hname | ⟨t, hname, rfl⟩
    · exact toNat_lt_of_isName hname
    · rw [String.toList_append, List.forall_mem_append]
      exact ⟨toNat_lt_of_isName hname, List.forall_mem_singleton.2 (by decide)⟩
  rw [lower, String.toList_ofList, lowerChars_of_ascii hascii]

theorem isName_of_toList_map_toLower {s t : String} (h : IsName s)
    (ht : t.toList = s.toList.map Char.toLower) : IsName t := by
  obtain ⟨c, cs, hcons, hstart, hrest⟩ := h
  rw [hcons, List.map_cons] at ht
  refine ⟨_, _, ht, isNameStart_toLower hstart, fun d hd => ?_⟩
  obtain ⟨e, he, rfl⟩ := List.mem_map.1 hd
  exact isNamePart_toLower (hrest e he)

/-- An identifier stays one in lower case. -/
theorem isIdentifier_lower {s : String} (h : isIdentifier s = true) :
    isIdentifier (lower s) = true := by
  have hlower := toList_lower_of_isIdentifier h
  rw [isIdentifier_iff]
  rcases isIdentifier_iff.1 h with hname | ⟨t, hname, rfl⟩
  · exact Or.inl (isName_of_toList_map_toLower hname hlower)
  · refine Or.inr ⟨String.ofList (t.toList.map Char.toLower),
      isName_of_toList_map_toLower hname String.toList_ofList, ?_⟩
    apply String.toList_inj.1
    simp only [hlower, String.toList_append, List.map_append, String.toList_ofList]
    rfl

theorem not_isCapital_of_mem_lower {s : String} : ∀ c ∈ (lower s).toList, ¬ IsCapital c := by
  intro c hc
  rw [lower, String.toList_ofList] at hc
  exact not_isCapital_of_mem_lowerChars hc

/-- An identifier in lower case is not changed by putting it into lower case again. -/
theorem lower_lower {s : String} (h : isIdentifier (lower s) = true) :
    lower (lower s) = lower s := by
  apply String.toList_inj.1
  rw [toList_lower_of_isIdentifier h]
  refine (List.map_congr_left fun c hc => ?_).trans (List.map_id _)
  exact toLower_of_not_isCapital (not_isCapital_of_mem_lower c hc)

theorem isSmallName_of_isName {s : String} (h : IsName s)
    (hsmall : ∀ c ∈ s.toList, ¬ IsCapital c) : IsSmallName s := by
  obtain ⟨c, cs, hcons, hstart, hrest⟩ := h
  rw [hcons, List.forall_mem_cons] at hsmall
  refine ⟨c, cs, hcons, hstart.resolve_right hsmall.1, fun d hd => ?_⟩
  exact (hrest d hd).resolve_right (hsmall.2 d hd)

/-- An identifier that is a text in lower case has small letters only, whatever the text was. -/
theorem isSmallName_of_isIdentifier_lower {s : String} (h : isIdentifier (lower s) = true) :
    UpToLineFeed IsSmallName (lower s) := by
  have hsmall : ∀ c ∈ (lower s).toList, ¬ IsCapital c := not_isCapital_of_mem_lower
  rcases isIdentifier_iff.1 h with hname | ⟨t, hname, ht⟩
  · exact Or.inl (isSmallName_of_isName hname hsmall)
  · rw [ht, String.toList_append, List.forall_mem_append] at hsmall
    exact Or.inr ⟨t, isSmallName_of_isName hname hsmall.1, ht⟩

theorem Spells.not_mem {first rest : Char → Prop} {s : String} {c : Char}
    (h : Spells first rest s) (hfirst : ¬ first c) (hrest : ¬ rest c) : c ∉ s.toList := by
  obtain ⟨d, ds, hcons, hd, hds⟩ := h
  rw [hcons]
  intro hmem
  rcases List.mem_cons.1 hmem with rfl | hmem
  · exact hfirst hd
  · exact hrest (hds c hmem)

theorem not_lineFeed_mem_of_isName {s : String} (h : IsName s) : '\n' ∉ s.toList := by
  refine h.not_mem ?_ ?_
  · unfold IsNameStart IsSmallStart IsCapital
    decide
  · unfold IsNamePart IsSmallPart IsSmallStart IsCapital
    decide

theorem not_lineFeed_mem_of_isSmallName {s : String} (h : IsSmallName s) : '\n' ∉ s.toList := by
  refine h.not_mem ?_ ?_
  · unfold IsSmallStart
    decide
  · unfold IsSmallPart IsSmallStart
    decide

theorem lineFeed_mem_append (t : String) : '\n' ∈ (t ++ "\n").toList := by
  rw [String.toList_append]
  exact List.mem_append_right _ (List.mem_singleton.2 rfl)

/-- The check accepts just the legal names as long as there is no line feed after one. -/
theorem isIdentifier_iff_isName_iff {s : String} :
    (isIdentifier s = true ↔ IsName s) ↔ ¬ ∃ t, IsName t ∧ s = t ++ "\n" := by
  constructor
  · rintro h ⟨t, hname, rfl⟩
    have hfeed := h.1 (isIdentifier_iff.2 (Or.inr ⟨t, hname, rfl⟩))
    exact not_lineFeed_mem_of_isName hfeed (lineFeed_mem_append t)
  · intro h
    exact isIdentifier_iff.trans (or_iff_left h)

end Identifiers

/-- A name that is found for something and used without quotes. -/
inductive Resolved : String → Prop
  | table {entity : Element} {name : String} (h : tableName entity = .ok name) : Resolved name
  | column {column : Element} {name : String} (h : columnName column = .ok name) : Resolved name
  | prefixedTable {tablePrefix : String} {entity : Element} {name : String}
      (h : prefixedTableName tablePrefix entity = .ok name) : Resolved name
  | routine {tag : Tag} {name : String} (h : routineName tag = .ok name) : Resolved name
  | schema {dataModel : Option Element} {name : String} (h : schemaName? dataModel = .ok name) :
      Resolved name
  | database {project : Element} (h : (databaseName project).isValid = true) :
      Resolved (databaseName project).name

section Resolvers

theorem eq_lower_of_checked {name found : String} {fault : NameFault}
    (h : (if isIdentifier name then .ok (lower name) else .error fault :
      Except NameFault String) = .ok found) : isIdentifier name = true ∧ found = lower name := by
  split at h
  · rename_i hname
    exact ⟨hname, (Except.ok.inj h).symm⟩
  · cases h

/-- A name that is found is an identifier in lower case. -/
theorem Resolved.exists_eq_lower {name : String} (h : Resolved name) :
    ∃ raw, name = lower raw ∧ isIdentifier (lower raw) = true := by
  have hplain : ∀ {raw found : String}, isIdentifier raw = true ∧ found = lower raw →
      ∃ raw, found = lower raw ∧ isIdentifier (lower raw) = true := by
    rintro raw found ⟨hraw, rfl⟩
    exact ⟨raw, rfl, isIdentifier_lower hraw⟩
  have hpublic : ∃ raw, publicSchema = lower raw ∧ isIdentifier (lower raw) = true := by
    have hname : isIdentifier publicSchema = true := by decide
    refine ⟨publicSchema, String.toList_inj.1 ?_, isIdentifier_lower hname⟩
    rw [toList_lower_of_isIdentifier hname]
    decide
  cases h with
  | table h =>
      simp only [tableName] at h
      exact hplain (eq_lower_of_checked h)
  | column h =>
      simp only [columnName] at h
      exact hplain (eq_lower_of_checked h)
  | routine h =>
      simp only [routineName] at h
      exact hplain (eq_lower_of_checked h)
  | @prefixedTable tablePrefix entity name h =>
      unfold prefixedTableName at h
      split at h
      · cases h
      · -- here the check comes after the change to lower case
        simp only at h
        split at h
        · rename_i base hbase hname
          exact ⟨tablePrefix ++ base, (Except.ok.inj h).symm, hname⟩
        · cases h
  | @schema dataModel name h =>
      cases dataModel with
      | none =>
          cases h
          exact hpublic
      | some dataModel =>
          simp only [schemaName?, schemaName] at h
          split at h
          · cases h
            exact hpublic
          · exact hplain (eq_lower_of_checked h)
  | @database project h =>
      unfold databaseName at h ⊢
      simp only at h ⊢
      split at h
      · rename_i hname
        rw [if_pos hname]
        exact hplain ⟨hname, rfl⟩
      · cases h

/-- The check accepts the legal names and those with a line feed after them.  A name that is
found is legal and in lower case exactly if no line feed has come with it. -/
theorem resolved_isSmallName_iff (name : String) :
    (isIdentifier name = true ↔ UpToLineFeed IsName name) ∧
      ((isIdentifier name = true ↔ IsName name) ↔ ¬ ∃ t, IsName t ∧ name = t ++ "\n") ∧
        (Resolved name →
          UpToLineFeed IsSmallName name ∧ (IsSmallName name ↔ '\n' ∉ name.toList)) := by
  refine ⟨isIdentifier_iff, isIdentifier_iff_isName_iff, fun h => ?_⟩
  obtain ⟨raw, rfl, hname⟩ := h.exists_eq_lower
  have hsmall := isSmallName_of_isIdentifier_lower hname
  refine ⟨hsmall, not_lineFeed_mem_of_isSmallName, fun hfeed => ?_⟩
  rcases hsmall with hsmall | ⟨t, -, ht⟩
  · exact hsmall
  · rw [ht] at hfeed
    exact absurd (lineFeed_mem_append t) hfeed

/-- An entity whose display name ends in a line feed has a table name that is not legal. -/
theorem resolved_isSmallName_iff_orders :
    Resolved "orders\n" ∧ UpToLineFeed IsSmallName "orders\n" ∧ ¬ IsSmallName "orders\n" := by
  have htable : tableName { name := "Orders\n" } = .ok "orders\n" := by decide +kernel
  have hresolved : Resolved "orders\n" := .table htable
  obtain ⟨hsmall, hlegal⟩ := (resolved_isSmallName_iff "orders\n").2.2 hresolved
  exact ⟨hresolved, hsmall, fun h => hlegal.1 h (by decide)⟩

end Resolvers

end Naming
end ErdSql
