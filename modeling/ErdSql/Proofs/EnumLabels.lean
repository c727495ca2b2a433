import ErdSql.Proofs.TrimmedLines
import ErdSql.Table.Columns

/-!
# Labels of enumerations

A text spells labels if it puts them one after the other, with commas or line feeds between them,
blanks around them, and blank stretches in between.  Each text spells exactly one list of labels,
and that is the list read from it.  So what is read is read again from the labels joined, and the
labels of two texts joined are those of the first and those of the second.
-/

namespace ErdSql

namespace Text

/-- A separator divides the pieces before it from those after it. -/
theorem splitChars_append_cons {sep : Char → Bool} {c : Char} (h : sep c = true)
    (cs ds : List Char) :
    splitChars sep (cs ++ c :: ds) = splitChars sep cs ++ splitChars sep ds := by
  induction cs with
  | nil => exact if_pos h
  | cons b cs ih =>
      rw [List.cons_append, splitChars, splitChars, ih]
      by_cases hb : sep b = true
      · rw [if_pos hb, if_pos hb, List.cons_append]
      · obtain ⟨piece, pieces, hpieces⟩ := List.exists_cons_of_ne_nil (splitChars_ne_nil sep cs)
        rw [if_neg hb, if_neg hb, hpieces]
        rfl

/-- A text has no separator, or one that is the first. -/
theorem exists_first_sep (sep : Char → Bool) (cs : List Char) :
    (∀ c ∈ cs, sep c = false) ∨
      ∃ piece c rest, cs = piece ++ c :: rest ∧ (∀ d ∈ piece, sep d = false) ∧ sep c = true := by
  induction cs with
  | nil => exact Or.inl (by simp)
  | cons b cs ih =>
      cases hb : sep b with
      | true => exact Or.inr ⟨[], b, cs, rfl, by simp, hb⟩
      | false =>
          rcases ih with hnone | ⟨piece, c, rest, rfl, hpiece, hc⟩
          · exact Or.inl (List.forall_mem_cons.2 ⟨hb, hnone⟩)
          · exact Or.inr ⟨b :: piece, c, rest, rfl, List.forall_mem_cons.2 ⟨hb, hpiece⟩, hc⟩

theorem append_trimChars {p : Char → Bool} {before : List Char} (h : ∀ c ∈ before, p c = true)
    (cs : List Char) : trimChars p (before ++ cs) = trimChars p cs := by
  induction before with
  | nil => rfl
  | cons c before ih =>
      rw [List.forall_mem_cons] at h
      rw [List.cons_append, trimChars_cons h.1, ih h.2]

theorem isAllBlank_ofList {cs : List Char} :
    isAllBlank (String.ofList cs) = true ↔ ∀ c ∈ cs, isBlank c = true := by
  rw [isAllBlank, String.toList_ofList, List.all_eq_true]

theorem mem_of_mem_trimChars {p : Char → Bool} {cs : List Char} {c : Char}
    (h : c ∈ trimChars p cs) : c ∈ cs := by
  obtain ⟨before, after, hcs, -⟩ := exists_append_trimChars p cs
  rw [hcs]
  exact List.mem_append_right _ (List.mem_append_left _ h)

/-- What has been trimmed is not trimmed any further. -/
theorem trimChars_trimChars (p : Char → Bool) (cs : List Char) :
    trimChars p (trimChars p cs) = trimChars p cs := by
  obtain ⟨before, after, hcs, hbefore, hafter⟩ := exists_append_trimChars p cs
  calc trimChars p (trimChars p cs)
      = trimChars p (trimChars p cs ++ after) := (trimChars_append hafter _).symm
    _ = trimChars p (before ++ (trimChars p cs ++ after)) := (append_trimChars hbefore _).symm
    _ = trimChars p cs := by rw [← hcs]

end Text

namespace Table

/-- The characters between labels. -/
def isLabelEnd (c : Char) : Bool :=
  c == ',' || c == '\n'

theorem isLabelEnd_iff {c : Char} : isLabelEnd c = true ↔ c = ',' ∨ c = '\n' := by
  simp [isLabelEnd]

/-! ## Reading labels -/

/-- The labels of a text, by their characters. -/
def labelChars (cs : List Char) : List (List Char) :=
  ((Text.splitChars isLabelEnd cs).map (Text.trimChars Text.isBlank)).filter (· ≠ [])

theorem enumLabels_eq (raw : String) :
    enumLabels raw = (labelChars raw.toList).map String.ofList := by
  have htrim : (Text.trim ∘ String.ofList) = String.ofList ∘ Text.trimChars Text.isBlank :=
    funext fun piece => by rw [Function.comp, Text.trim, String.toList_ofList]; rfl
  have hempty : ((· != "") ∘ String.ofList : List Char → Bool) = fun piece => decide (piece ≠ []) :=
    funext fun piece => by cases piece <;> simp [bne]
  change ((((Text.splitChars isLabelEnd raw.toList).map String.ofList).map Text.trim).filter
    (· != "")) = _
  rw [List.map_map, htrim, ← List.map_map, List.filter_map, hempty]
  rfl

theorem labelChars_append_cons {c : Char} (h : isLabelEnd c = true) (cs ds : List Char) :
    labelChars (cs ++ c :: ds) = labelChars cs ++ labelChars ds := by
  rw [labelChars, Text.splitChars_append_cons h, List.map_append, List.filter_append]
  rfl

/-- A text without separators is one label, or none if it is blank. -/
theorem labelChars_of_undivided {cs : List Char} (h : ∀ c ∈ cs, isLabelEnd c = false) :
    labelChars cs = [Text.trimChars Text.isBlank cs].filter (· ≠ []) := by
  rw [labelChars, Text.splitChars_of_not_sep h]
  rfl

/-- A blank character before a text does not change its labels. -/
theorem labelChars_cons {c : Char} (h : Text.isBlank c = true) (cs : List Char) :
    labelChars (c :: cs) = labelChars cs := by
  cases hsep : isLabelEnd c with
  | true =>
    -- a line feed that begins a text ends a blank piece
    exact labelChars_append_cons hsep [] cs
  | false =>
      obtain ⟨piece, pieces, hpieces⟩ :=
        List.exists_cons_of_ne_nil (Text.splitChars_ne_nil isLabelEnd cs)
      rw [labelChars, labelChars, Text.splitChars, hsep, hpieces]
      simp only [Bool.false_eq_true, if_false, List.map_cons, Text.trimChars_cons h]

theorem append_labelChars {before : List Char} (h : ∀ c ∈ before, Text.isBlank c = true)
    (cs : List Char) : labelChars (before ++ cs) = labelChars cs := by
  induction before with
  | nil => rfl
  | cons c before ih =>
      rw [List.forall_mem_cons] at h
      rw [List.cons_append, labelChars_cons h.1, ih h.2]

theorem labelChars_concat {c : Char} (h : Text.isBlank c = true) (cs : List Char) :
    labelChars (cs ++ [c]) = labelChars cs := by
  cases hsep : isLabelEnd c with
  | true =>
      rw [labelChars_append_cons hsep]
      exact List.append_nil _
  | false =>
      have hblank : ∀ d ∈ [c], Text.isBlank d = true := by simpa using h
      obtain ⟨before, last, hpieces⟩ :=
        (Text.splitChars isLabelEnd cs).eq_nil_or_concat.resolve_left (Text.splitChars_ne_nil _ _)
      rw [List.concat_eq_append] at hpieces
      rw [labelChars, labelChars, Text.splitChars_append (by simpa using hsep) hpieces, hpieces]
      simp only [List.map_append, List.map_singleton, Text.trimChars_append hblank]

theorem labelChars_append {after : List Char} (h : ∀ c ∈ after, Text.isBlank c = true)
    (cs : List Char) : labelChars (cs ++ after) = labelChars cs := by
  induction after generalizing cs with
  | nil => rw [List.append_nil]
  | cons c after ih =>
      rw [List.forall_mem_cons] at h
      rw [← List.singleton_append, ← List.append_assoc, ih h.2, labelChars_concat h.1]

/-! ## Texts that spell labels -/

/-- A text that can be read as one label. -/
structure IsLabel (label : String) : Prop where
  ne_empty : label ≠ ""
  trimmed : Text.trim label = label
  undivided : ∀ c ∈ label.toList, c ≠ ',' ∧ c ≠ '\n'

/-- A text spells labels: it is blank and spells none, it is a label with blanks around it, or it is
put together of two such texts with a comma or a line feed between them. -/
inductive Spells : List String → String → Prop
  | blank {text : String} (hblank : Text.isAllBlank text = true) : Spells [] text
  | label {label before after : String} (hlabel : IsLabel label)
      (hbefore : Text.isAllBlank before = true) (hafter : Text.isAllBlank after = true) :
      Spells [label] (before ++ label ++ after)
  | join {labels others : List String} {text other separator : String}
      (hseparator : separator ∈ [",", "\n"]) (hlabels : Spells labels text)
      (hothers : Spells others other) :
      Spells (labels ++ others) (text ++ separator ++ other)

theorem isLabel_of_mem_enumLabels {raw label : String} (h : label ∈ enumLabels raw) :
    IsLabel label := by
  rw [enumLabels_eq] at h
  obtain ⟨piece, hpiece, rfl⟩ := List.mem_map.1 h
  obtain ⟨hmem, hne⟩ := List.mem_filter.1 hpiece
  obtain ⟨divided, hdivided, rfl⟩ := List.mem_map.1 hmem
  refine ⟨by simpa using hne, ?_, fun c hc => ?_⟩
  · rw [Text.trim, String.toList_ofList, Text.trimChars_trimChars]
  · rw [String.toList_ofList] at hc
    have hend := Text.not_sep_of_mem_splitChars hdivided (Text.mem_of_mem_trimChars hc)
    simpa [isLabelEnd] using hend

/-- A separator divides the labels before it from those after it. -/
theorem enumLabels_append {separator : String} (h : separator ∈ [",", "\n"])
    (text other : String) :
    enumLabels (text ++ separator ++ other) = enumLabels text ++ enumLabels other := by
  obtain ⟨c, hc, hsep⟩ : ∃ c, separator.toList = [c] ∧ isLabelEnd c = true := by
    simp only [List.mem_cons, List.not_mem_nil, or_false] at h
    rcases h with rfl | rfl
    · exact ⟨',', rfl, rfl⟩
    · exact ⟨'\n', rfl, rfl⟩
  rw [enumLabels_eq, enumLabels_eq, enumLabels_eq, String.toList_append, String.toList_append, hc,
    List.append_assoc, List.singleton_append, labelChars_append_cons hsep, List.map_append]

/-- What a text spells is read from it. -/
theorem enumLabels_of_spells {labels : List String} {text : String} (h : Spells labels text) :
    enumLabels text = labels := by
  induction h with
  | @blank text hblank =>
      have hnil := append_labelChars (List.all_eq_true.1 hblank) []
      rw [List.append_nil] at hnil
      rw [enumLabels_eq, hnil]
      rfl
  | @label label before after hlabel hbefore hafter =>
      have htrimmed : Text.trimChars Text.isBlank label.toList = label.toList := by
        simpa [Text.trim] using congrArg String.toList hlabel.trimmed
      have hundivided : ∀ c ∈ label.toList, isLabelEnd c = false :=
        fun c hc => by simpa [isLabelEnd] using hlabel.undivided c hc
      rw [enumLabels_eq, String.toList_append, String.toList_append,
        labelChars_append (List.all_eq_true.1 hafter),
        append_labelChars (List.all_eq_true.1 hbefore), labelChars_of_undivided hundivided,
        htrimmed]
      simp [hlabel.ne_empty]
  | join hseparator _ _ ihlabels ihothers =>
      rw [enumLabels_append hseparator, ihlabels, ihothers]

/-- A text without separators spells one label or none. -/
theorem spells_of_undivided {cs : List Char} (h : ∀ c ∈ cs, isLabelEnd c = false) :
    Spells ((labelChars cs).map String.ofList) (String.ofList cs) := by
  by_cases htrim : Text.trimChars Text.isBlank cs = []
  · rw [labelChars_of_undivided h, htrim]
    exact .blank (Text.isAllBlank_ofList.2 (Text.trimChars_eq_nil_iff.1 htrim))
  · obtain ⟨before, after, hcs, hbefore, hafter⟩ := Text.exists_append_trimChars Text.isBlank cs
    have hlabels : (labelChars cs).map String.ofList =
        [String.ofList (Text.trimChars Text.isBlank cs)] := by
      simp [labelChars_of_undivided h, htrim]
    have hlabel : IsLabel (String.ofList (Text.trimChars Text.isBlank cs)) := by
      apply isLabel_of_mem_enumLabels
      rw [enumLabels_eq, String.toList_ofList, hlabels]
      exact List.mem_singleton_self _
    have htext : String.ofList cs = String.ofList before ++
        String.ofList (Text.trimChars Text.isBlank cs) ++ String.ofList after := by
      conv_lhs => rw [hcs]
      rw [String.ofList_append, String.ofList_append, String.append_assoc]
    rw [hlabels, htext]
    exact .label hlabel (Text.isAllBlank_ofList.2 hbefore) (Text.isAllBlank_ofList.2 hafter)

/-- A text spells what is read from it: the label before the first separator, if there is one, and
what the rest spells. -/
theorem spells_labelChars (cs : List Char) :
    Spells ((labelChars cs).map String.ofList) (String.ofList cs) := by
  rcases Text.exists_first_sep isLabelEnd cs with hnone | ⟨piece, c, rest, hcs, hpiece, hc⟩
  · exact spells_of_undivided hnone
  · have hseparator : String.ofList [c] ∈ [",", "\n"] := by
      rcases isLabelEnd_iff.1 hc with rfl | rfl
      · exact List.mem_cons_self ..
      · exact List.mem_cons_of_mem _ (List.mem_cons_self ..)
    have hjoin := Spells.join hseparator (spells_of_undivided hpiece) (spells_labelChars rest)
    rw [← String.ofList_append, ← String.ofList_append, ← List.map_append] at hjoin
    rw [hcs, labelChars_append_cons hc]
    rwa [List.append_assoc, List.singleton_append] at hjoin
termination_by cs.length
decreasing_by
  rw [hcs, List.length_append, List.length_cons]
  omega

/-- A text spells the labels that are read from it, and no others. -/
theorem spells_iff {labels : List String} {text : String} :
    Spells labels text ↔ enumLabels text = labels := by
  constructor
  · exact enumLabels_of_spells
  · rintro rfl
    rw [enumLabels_eq]
    simpa using spells_labelChars text.toList

/-- Labels joined are spelt. -/
theorem spells_intercalate {separator : String} (h : separator ∈ [",", "\n"])
    {labels : List String} (hlabels : ∀ label ∈ labels, IsLabel label) :
    Spells labels (separator.intercalate labels) := by
  induction labels with
  | nil => exact .blank rfl
  | cons label labels ih =>
      obtain ⟨hlabel, hothers⟩ := List.forall_mem_cons.1 hlabels
      have hfirst : Spells [label] label := by
        have hblank : Text.isAllBlank "" = true := rfl
        have hspells := Spells.label hlabel hblank hblank
        rwa [String.empty_append, String.append_empty] at hspells
      cases labels with
      | nil => rwa [String.intercalate_singleton]
      | cons other labels =>
          rw [String.intercalate_cons_cons]
          exact .join h hfirst (ih hothers)

/-- Reading labels takes back joining them.  What is read are labels: they are not empty, trimming
leaves them as they are, and no comma and no line feed is in them.  A list of labels is read from
exactly the texts that spell it, however many blanks are around the labels and however many blank
stretches between them; among these are the labels joined by commas or by line feeds alone.  So the
labels read from a text are read again when they are joined, and the labels of two texts joined are
those of the first and those of the second. -/
theorem enumLabels_inverts :
    (∀ raw, ∀ label ∈ enumLabels raw, label ≠ "" ∧ Text.trim label = label ∧
      ∀ c ∈ label.toList, c ≠ ',' ∧ c ≠ '\n') ∧
    (∀ labels raw, enumLabels raw = labels ↔ Spells labels raw) ∧
    ∀ separator ∈ [",", "\n"],
      (∀ labels : List String, (∀ label ∈ labels, IsLabel label) →
        enumLabels (separator.intercalate labels) = labels) ∧
      (∀ raw, enumLabels (separator.intercalate (enumLabels raw)) = enumLabels raw) ∧
      ∀ text other, enumLabels (text ++ separator ++ other) =
        enumLabels text ++ enumLabels other := by
  have hread : ∀ raw, ∀ label ∈ enumLabels raw, IsLabel label :=
    fun raw label => isLabel_of_mem_enumLabels
  refine ⟨fun raw label hlabel => ?_, fun labels raw => spells_iff.symm, fun separator h =>
    ⟨fun labels hlabels => ?_, fun raw => ?_, enumLabels_append h⟩⟩
  · obtain ⟨hne, htrimmed, hundivided⟩ := hread raw label hlabel
    exact ⟨hne, htrimmed, hundivided⟩
  · exact enumLabels_of_spells (spells_intercalate h hlabels)
  · exact enumLabels_of_spells (spells_intercalate h (hread raw))

/-- A text with blanks around its labels and blank stretches between them spells the same labels as
those labels on lines of their own. -/
theorem enumLabels_inverts_states :
    Spells ["new", "on hold"] " new ,,\n\ton hold\n , " ∧
      (∀ label ∈ ["new", "on hold"], IsLabel label) ∧
      enumLabels ("\n".intercalate ["new", "on hold"]) = ["new", "on hold"] := by
  have hraw : enumLabels " new ,,\n\ton hold\n , " = ["new", "on hold"] := by decide +kernel
  obtain ⟨hread, hspells, hjoin⟩ := enumLabels_inverts
  have hlabels : ∀ label ∈ ["new", "on hold"], IsLabel label := fun label hlabel =>
    have ⟨hne, htrimmed, hundivided⟩ := hread _ label (hraw ▸ hlabel)
    ⟨hne, htrimmed, hundivided⟩
  exact ⟨(hspells _ _).1 hraw, hlabels, (hjoin "\n" (by decide)).1 _ hlabels⟩

end Table
end ErdSql
