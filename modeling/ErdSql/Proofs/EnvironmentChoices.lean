import ErdSql.Proofs.OptionChoices

/-!
# Options of the environment

The environment sets options in a way of its own, with its own defaults and its own readings of
texts.  It comes to what a mapping comes to that gives the same texts to the same options: an
option whose variable is not set has its default, and a text is the same switch, the same integer
and the same text in both ways.  A number of spaces that is no integer is the same fault in both.
-/

namespace ErdSql
namespace Options

/-- The value that the environment gives to an option: the text of its variable. -/
def setting? (env : Environment) (key : OptionKey) : Option Json :=
  (env.get? key.variableName).map .string

/-- The options of the environment as a host application would hand them over. -/
def hostMapping (env : Environment) : List (String × Json) :=
  OptionKey.all.filterMap fun key => (setting? env key).map (key.hostName, ·)

section Readings

variable {env : Environment}

/-- Each option of the environment is the text of its variable, read as a value of its kind, or its
default. -/
theorem read_setting {options : Options} (h : ofEnvironment env = .ok options) (key : OptionKey) :
    read key (setting? env key) {} = .ok (options.get key) := by
  unfold ofEnvironment at h
  unfold setting?
  obtain ⟨given, hgiven⟩ : ∃ given, env.get? key.variableName = given := ⟨_, rfl⟩
  rw [hgiven]
  cases htext : env.get? OptionKey.indentSpaces.variableName with
  | none =>
      rw [htext] at h
      cases h
      cases key with
      | indentSpaces =>
          obtain rfl : none = given := htext.symm.trans hgiven
          rfl
      | _ =>
          simp only [get, hgiven]
          cases given <;> simp [read, get, OptionKey.kind, valueOf, switchOf, textOf, Json.shown]
  | some text =>
      cases hspaces : integerOfText text with
      | error fault =>
          simp only [htext, hspaces] at h
          cases h
      | ok spaces =>
          simp only [htext, hspaces] at h
          cases h
          cases key with
          | indentSpaces =>
              obtain rfl : some text = given := htext.symm.trans hgiven
              exact hspaces
          | _ =>
              simp only [get, hgiven]
              cases given <;>
                simp [read, get, OptionKey.kind, valueOf, switchOf, textOf, Json.shown]

/-- Only the text for the number of spaces can be at fault. -/
theorem read_setting_of_error {fault : OptionFault} (h : ofEnvironment env = .error fault) :
    read .indentSpaces (setting? env .indentSpaces) {} = .error fault := by
  unfold ofEnvironment at h
  unfold setting?
  cases htext : env.get? OptionKey.indentSpaces.variableName with
  | none =>
      rw [htext] at h
      cases h
  | some text =>
      cases hspaces : integerOfText text with
      | error found =>
          simp only [htext, hspaces] at h
          cases h
          exact hspaces
      | ok spaces =>
          simp only [htext, hspaces] at h
          cases h

end Readings

section Agreement

/-- The mapping that states the environment gives each option its text, once. -/
theorem given_hostMapping (env : Environment) (key : OptionKey) :
    given key (hostMapping env) = (setting? env key).toList := by
  have hkeys : ∀ keys : List OptionKey, keys.Nodup →
      given key (keys.filterMap fun k => (setting? env k).map (k.hostName, ·)) =
        if key ∈ keys then (setting? env key).toList else [] := by
    intro keys hnodup
    induction keys with
    | nil => rfl
    | cons k keys ih =>
        obtain ⟨hnew, hnodup⟩ := List.nodup_cons.1 hnodup
        cases hvalue : setting? env k with
        | none =>
            rw [List.filterMap_cons_none (by rw [hvalue]; rfl), ih hnodup]
            by_cases hkey : key = k
            · subst hkey
              simp [hnew, hvalue]
            · simp [hkey]
        | some value =>
            obtain ⟨text, -, rfl⟩ := Option.map_eq_some_iff.1 hvalue
            have hname : OptionKey.ofName? k.hostName = some k :=
              (OptionKey.ofName?_eq_some_iff k _).2 (Or.inl rfl)
            rw [List.filterMap_cons_some (by rw [hvalue]; rfl), ← List.singleton_append,
              given_append, ih hnodup, given_singleton, hname]
            by_cases hkey : key = k
            · subst hkey
              simp [hnew, hvalue, Json.isNull]
            · simp [hkey, Ne.symm hkey]
  exact (hkeys OptionKey.all (by decide)).trans (if_pos key.mem_all)

/-- A mapping comes to what the environment comes to if the last value that it gives to each option
is the text of its variable. -/
theorem ofEnvironment_eq_ofMapping {env : Environment} {mapping : List (String × Json)}
    (h : ∀ key, (given key mapping).getLast? = setting? env key) :
    ofEnvironment env = ofMapping mapping := by
  symm
  cases hread : ofEnvironment env with
  | error fault =>
      rw [ofMapping_eq_error_iff, choice, h]
      exact read_setting_of_error hread
  | ok options =>
      rw [ofMapping_eq_ok_iff]
      intro key
      rw [choice, h]
      exact read_setting hread key

/-- The environment and a mapping agree.  What the environment comes to, options or a fault, is what
comes of the mapping that states its texts under the names of the options, and of every other
mapping whose last value for each option is the text of its variable.  So each option whose variable
is set is the same switch, integer or text in both ways, and each other option has its default. -/
theorem ofEnvironment_agrees (env : Environment) :
    ofEnvironment env = ofMapping (hostMapping env) ∧
    (∀ mapping, (∀ key, (given key mapping).getLast? = setting? env key) →
      ofEnvironment env = ofMapping mapping) ∧
    (∀ options, ofEnvironment env = .ok options ↔
      ∀ key : OptionKey, match env.get? key.variableName with
        | some text => valueOf key.kind (.string text) = .ok (options.get key)
        | none => options.get key = ({} : Options).get key) ∧
    ∀ fault, ofEnvironment env = .error fault ↔
      ∃ text, env.get? OptionKey.indentSpaces.variableName = some text ∧
        integerOfText text = .error fault := by
  have hgiven : ∀ key, (given key (hostMapping env)).getLast? = setting? env key := by
    intro key
    rw [given_hostMapping]
    cases setting? env key <;> rfl
  have hhost := ofEnvironment_eq_ofMapping hgiven
  refine ⟨hhost, fun mapping => ofEnvironment_eq_ofMapping, fun options => ?_, fun fault => ?_⟩
  · rw [hhost, ofMapping_eq_ok_iff]
    refine forall_congr' fun key => ?_
    rw [choice, hgiven, setting?]
    cases env.get? key.variableName with
    | none => exact ⟨fun h => (Except.ok.inj h).symm, fun h => congrArg Except.ok h.symm⟩
    | some text => exact Iff.rfl
  · rw [hhost, ofMapping_eq_error_iff, choice, hgiven, setting?]
    cases env.get? OptionKey.indentSpaces.variableName with
    | none =>
        refine iff_of_false (fun h => ?_) (fun h => ?_)
        · cases h
        · obtain ⟨text, hnone, -⟩ := h
          cases hnone
    | some text =>
        constructor
        · exact fun h => ⟨text, rfl, h⟩
        · rintro ⟨other, hother, h⟩
          cases hother
          exact h

/-- An environment that sets three options and one variable of no option. -/
def buildEnvironment : Environment :=
  ⟨[("DDL_USE_TAB", " YES "), ("LOG_FORMAT", "json"), ("DDL_INDENT_SPACES", " 2 "),
    ("DDL_OWNER", "")]⟩

/-- A mapping that gives the same texts in another order and under other names, one of them only
after another value. -/
def buildMapping : List (String × Json) :=
  [("owner", .int 7), ("indent_spaces", .string " 2 "), ("owner", .string ""),
    ("encoding", .null), ("use_tab", .string " YES ")]

theorem ofEnvironment_agrees_build :
    ofEnvironment buildEnvironment = ofMapping buildMapping ∧
      ofEnvironment buildEnvironment = .ok { useTab := true, indentSpaces := 2, owner := "" } := by
  have hbuild := ofEnvironment_agrees buildEnvironment
  refine ⟨hbuild.2.1 buildMapping fun key => ?_, (hbuild.2.2.1 _).2 fun key => ?_⟩
  · cases key <;> rfl
  · cases key <;> rfl

end Agreement

end Options
end ErdSql
