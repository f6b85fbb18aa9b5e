import SimSweep.Proofs.Settings.Entries
import SimSweep.Proofs.Settings.Layers
import SimSweep.Proofs.Terminal.Coloring

/-! # What failures quote

    A message is put together from words of the program, numerals and, for some failures, a
    string that the user has given: an entry of a list in the environment, the scenario or
    the program. Such a string may hold escape characters, and nothing else in a message
    does.

    Main statements: the failure for which there are no settings quotes nothing but what the
    user has given (`load_quotes`), and the failure of a strict sweep quotes nothing but the
    reason for which an invocation was not started (`verdict_quotes`). Every failure is
    followed to the check that makes it, with `FailsWith`.
-/

namespace SimSweep

open Terminal (escape)

/-! ## Section 1: Where escape characters come from -/

namespace Terminal

/-- A text is put together from pieces, and those that hold an escape character are parts
    of strings that are given. -/
def EscapesOnlyIn (given : String → Prop) (t : List Char) : Prop :=
  ∃ pieces : List (List Char), t = pieces.flatten ∧
    ∀ piece ∈ pieces, escape ∈ piece → ∃ source, given source ∧ piece <:+: source.toList

namespace EscapesOnlyIn

variable {given : String → Prop} {t t' : List Char}

theorem of_notMem (h : escape ∉ t) : EscapesOnlyIn given t := by
  refine ⟨[t], List.flatten_singleton.symm, ?_⟩
  intro piece hpiece hmem
  rw [List.mem_singleton.mp hpiece] at hmem
  exact absurd hmem h

theorem of_part {source : String} (hgiven : given source) (h : t <:+: source.toList) :
    EscapesOnlyIn given t := by
  refine ⟨[t], List.flatten_singleton.symm, ?_⟩
  intro piece hpiece _
  exact ⟨source, hgiven, List.mem_singleton.mp hpiece ▸ h⟩

theorem append (h : EscapesOnlyIn given t) (h' : EscapesOnlyIn given t') :
    EscapesOnlyIn given (t ++ t') := by
  obtain ⟨pieces, rfl, hpieces⟩ := h
  obtain ⟨pieces', rfl, hpieces'⟩ := h'
  refine ⟨pieces ++ pieces', List.flatten_append.symm, ?_⟩
  intro piece hpiece
  rcases List.mem_append.mp hpiece with hpiece | hpiece
  · exact hpieces piece hpiece
  · exact hpieces' piece hpiece

end EscapesOnlyIn

end Terminal

/-! ## Section 2: Messages -/

section Messages

open Terminal (EscapesOnlyIn)

/-- The message of a failure has escape characters only where it quotes a given string. -/
def Failure.Quotes (given : String → Prop) (f : Failure) : Prop :=
  EscapesOnlyIn given f.message.toList

theorem escape_notMem_natText (n : Nat) : escape ∉ (toString n).toList := by
  rw [Nat.toString_eq_repr, Nat.toList_repr]
  exact escape_notMem_digitsOf n

theorem Binary64.escape_notMem_text (x : Binary64) : escape ∉ x.text.toList := by
  rw [Binary64.text, String.toList_ofList]
  exact escape_notMem_of_textual fun _ => Binary64.isTextual_of_mem_write

variable {given : String → Prop}

/-- What is wrong with a value is told with its numeral. -/
theorem Failure.quotes_value {fault : ValueFault} (h : ∀ message, fault ≠ .other message) :
    Quotes given (.validation fault) := by
  have hname : ∀ q : Quantity, EscapesOnlyIn given q.name.toList := by
    intro q
    cases q <;> exact .of_notMem (by decide)
  have hvalue : ∀ x : Binary64, EscapesOnlyIn given x.text.toList := fun x =>
    .of_notMem x.escape_notMem_text
  unfold Quotes Failure.message ValueFault.message
  cases fault with
  | notFinite q x =>
    simp only [String.toList_append]
    exact .append (.of_notMem (by decide))
      (.append (.append (hname q) (.of_notMem (by decide))) (hvalue x))
  | negative q x =>
    simp only [String.toList_append]
    exact .append (.of_notMem (by decide))
      (.append (.append (hname q) (.of_notMem (by decide))) (hvalue x))
  | notInterval x =>
    simp only [String.toList_append]
    exact .append (.of_notMem (by decide)) (.append (.append (.append (.of_notMem (by decide))
      (.of_notMem (escape_notMem_natText _))) (.of_notMem (by decide))) (hvalue x))
  | other message => exact absurd rfl (h message)

/-- The text of a fault of the configuration, if it shows one. -/
def ConfigFault.quoted : ConfigFault → Option String
  | .badListEntry _ entry => some entry
  | .scenarioCharacter scenario => some scenario
  | .quotedProgram program => some program
  | .other message => some message
  | _ => none

/-- What is wrong with the configuration is told with the text that has the fault. -/
theorem Failure.quotes_config {fault : ConfigFault}
    (hvariable : ∀ name entry, fault = .badListEntry name entry → escape ∉ name.toList)
    (hquoted : ∀ text, fault.quoted = some text → EscapesOnlyIn given text.toList) :
    Quotes given (.config fault) := by
  unfold Quotes Failure.message ConfigFault.message
  rw [String.toList_append]
  refine .append (.of_notMem (by decide)) ?_
  cases fault with
  | badListEntry name entry =>
    simp only [String.toList_append]
    exact .append (.append (.append (.append (.of_notMem (by decide))
      (.of_notMem (hvariable name entry rfl))) (.of_notMem (by decide))) (hquoted entry rfl))
      (.of_notMem (by decide))
  | scenarioCharacter scenario =>
    rw [String.toList_append]
    exact .append (.of_notMem (by decide)) (hquoted scenario rfl)
  | quotedProgram program =>
    rw [String.toList_append]
    exact .append (.of_notMem (by decide)) (hquoted program rfl)
  | other message => exact hquoted message rfl
  | _ => exact .of_notMem (by decide)

/-! ## Section 3: Failures -/

/-- The strings that a user gives: texts in the arguments and in the environment. -/
inductive IsGiven (env : Environment) (a : Arguments) : String → Prop where
  | launcher {source : String} : a.launcher = some source → IsGiven env a source
  | scenario {source : String} : a.scenario = some source → IsGiven env a source
  | program {source : String} : a.program = some source → IsGiven env a source
  | variable (v : Settings.Variable) {source : String} : env v.name = some source →
      IsGiven env a source

namespace Settings

theorem checkQuantity_quotes (q : Quantity) (x : Binary64) :
    FailsWith (Failure.Quotes given) (checkQuantity q x) :=
  .ite (.error (Failure.quotes_value (by simp)))
    (.ite (.error (Failure.quotes_value (by simp))) (.ok ()))

theorem checkRate_quotes (x : Binary64) : FailsWith (Failure.Quotes given) (checkRate x) := by
  refine .bind (checkQuantity_quotes .dataRate x) fun _ => ?_
  exact .ite (.error (Failure.quotes_value (by simp))) (.ok ())

/-- Two faults of a template are told with a text of it. -/
theorem checkTemplate_quotes (t : Template) (hscenario : EscapesOnlyIn given t.scenario.toList)
    (hprogram : EscapesOnlyIn given t.program.toList) :
    FailsWith (Failure.Quotes given) (checkTemplate t) := by
  have hblank : ∀ {fault : ConfigFault}, fault.quoted = none →
      Failure.Quotes given (.config fault) := by
    intro fault hnone
    refine Failure.quotes_config ?_ fun text htext => by cases hnone.symm.trans htext
    rintro name entry rfl
    cases hnone
  have hscenarioFault : Failure.Quotes given (.config (.scenarioCharacter t.scenario)) :=
    Failure.quotes_config (by simp) fun _ htext => Option.some.inj htext ▸ hscenario
  have hprogramFault : Failure.Quotes given (.config (.quotedProgram t.program)) :=
    Failure.quotes_config (by simp) fun _ htext => Option.some.inj htext ▸ hprogram
  refine .ite (.error (hblank rfl)) (.ite (.error (hblank rfl)) (.ite (.error hscenarioFault) ?_))
  exact .ite (.error (hblank rfl)) (.ite (.error hprogramFault) (.ok ()))

theorem validate_quotes (s : Settings) (hscenario : EscapesOnlyIn given s.scenario.toList)
    (hprogram : EscapesOnlyIn given s.program.toList) :
    FailsWith (Failure.Quotes given) s.validate := by
  refine .bind (.forM checkRate_quotes s.rates) fun _ => ?_
  refine .bind (.forM (checkQuantity_quotes .distance) s.distances) fun _ => ?_
  exact checkTemplate_quotes s.toTemplate hscenario hprogram

variable {env : Environment} {a : Arguments}

/-- A text of the settings is given, or it is the built-in one. -/
theorem chosenText_escapes {v : Variable} {inArguments : Option String} {builtIn : String}
    (harguments : ∀ source, inArguments = some source → IsGiven env a source)
    (hbuiltIn : escape ∉ builtIn.toList) :
    EscapesOnlyIn (IsGiven env a) (chosenText inArguments (env v.name) builtIn).toList := by
  unfold chosenText
  cases hchosen : inArguments with
  | some source => exact .of_part (harguments source hchosen) (List.infix_refl _)
  | none =>
    cases hset : env v.name with
    | some source =>
      refine .of_part (.variable v hset) ?_
      show (trimmed source).toList <:+: source.toList
      rw [trimmed, String.toList_ofList]
      exact infix_trim source.toList
    | none => exact .of_notMem hbuiltIn

/-- A list that cannot be read is blamed on an entry as it stands in the environment. -/
theorem Unreadable.quotes {v : Variable} {f : Failure} (h : Unreadable env v.name f) :
    f.Quotes (IsGiven env a) := by
  obtain ⟨text, hset, hread⟩ := h
  obtain ⟨before, entry, after, hentries, _, _, rfl⟩ := NumberList.read_eq_error_iff.mp hread
  have hinfix : entry <:+: text.toList :=
    NumberList.infix_of_mem_entries (hentries ▸ by simp)
  refine Failure.quotes_config ?_ ?_
  · rintro name entry' heq
    cases heq
    cases v <;> decide
  · rintro quoted heq
    cases heq
    rw [String.toList_ofList]
    exact .of_part (.variable v hset) hinfix

/-- Whatever keeps arguments and environment from making settings is told with what is given. -/
theorem load_quotes : FailsWith (Failure.Quotes (IsGiven env a)) (load a env) := by
  intro f h
  rcases ofArguments_eq_error_iff.mp h with
    ⟨_, rfl⟩ | ⟨_, hrates⟩ | ⟨_, _, hdistances⟩ | ⟨_, _, _, hvalid⟩
  · exact Failure.quotes_config (by simp) (by simp [ConfigFault.quoted])
  · exact Unreadable.quotes (v := .rates) hrates
  · exact Unreadable.quotes (v := .distances) hdistances
  · let s := layered a env (a.wantsColors env)
    have hscenario : EscapesOnlyIn (IsGiven env a) s.scenario.toList :=
      chosenText_escapes (v := .scenario) (fun _ => .scenario) (by decide)
    have hprogram : EscapesOnlyIn (IsGiven env a) s.program.toList :=
      chosenText_escapes (v := .program) (fun _ => .program) (by decide)
    exact validate_quotes s hscenario hprogram f hvalid

end Settings

/-- A sweep is judged with numbers, or with the reason of an invocation. -/
theorem Report.verdict_quotes {r : Report}
    (h : ∀ i ∈ r.invocations, ∀ reason, i.ending = .notStarted reason → escape ∉ reason.toList) :
    FailsWith (Failure.Quotes given) r.verdict := by
  have hcount : ∀ n : Nat, EscapesOnlyIn given (toString n).toList := fun n =>
    .of_notMem (escape_notMem_natText n)
  unfold Report.verdict
  cases hreasons : r.invocations.filterMap Report.launchReason? with
  | cons reason others =>
    refine .error ?_
    have hmem : reason ∈ r.invocations.filterMap Report.launchReason? := by simp [hreasons]
    obtain ⟨i, hi, hreason⟩ := List.mem_filterMap.mp hmem
    have hending : i.ending = .notStarted reason := by
      unfold Report.launchReason? at hreason
      split at hreason
      · next heq => cases hreason; exact heq
      · cases hreason
    unfold Failure.Quotes Failure.message LaunchFault.message
    simp only [String.toList_append]
    exact .append (.of_notMem (by decide)) (.append (.append (.append (.append (hcount _)
      (.of_notMem (by decide))) (hcount _)) (.of_notMem (by decide)))
      (.of_notMem (h i hi reason hending)))
  | nil =>
    refine .ite (.error ?_) (.ok ())
    unfold Failure.Quotes Failure.message
    simp only [String.toList_append]
    exact .append (.append (.append (hcount _) (.of_notMem (by decide))) (hcount _))
      (.of_notMem (by decide))

/-- Without colors the line of a failure is its tag and its message. -/
theorem Failure.Quotes.consoleText {f : Failure} (h : f.Quotes given) (emits : Bool) :
    EscapesOnlyIn given (f.consoleText emits false).toList := by
  rw [f.consoleText_false]
  simp only [String.toList_append]
  exact .append (.append (.append (.of_notMem (by decide)) (.of_notMem f.escape_notMem_category))
    (.of_notMem (by decide))) h

end Messages

end SimSweep
