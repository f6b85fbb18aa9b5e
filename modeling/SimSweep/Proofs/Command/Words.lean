import SimSweep.Command.Words
import SimSweep.Proofs.Command.Line
import SimSweep.Proofs.Plan.Members
import SimSweep.Proofs.Settings.Validation

/-! # The words of a rendered command

    Valid settings are to keep the parts of a command apart: behind the launcher a shell
    is to see the word `--run`, the scenario and one word for the template. Main
    statement: it does so exactly if the scenario holds neither a single quote nor a
    backslash (`split_render_iff`). The program may hold both, since it stands between
    double quotes, where a single quote is no quote and the parameters behind the program
    keep a backslash away from the closing quote. In the scenario they are quotes, and
    validation looks for double quotes only.
-/

namespace SimSweep.ShellWords

namespace Splitter

variable {blank : Char → Bool}

/-! ## Section 1: One step -/

/-- All that a step can do to the words: it leaves them alone, goes on with the open one
    or ends it. -/
inductive Effect (s s' : Splitter) : Prop
  | kept : s'.ended = s.ended → s'.word = s.word → Effect s s'
  | grown (added : List Char) :
      s'.ended = s.ended → s'.word = some (s.word.getD [] ++ added) → Effect s s'
  | closed : s'.ended = s.ended ++ s.word.toList → s'.word = none → Effect s s'

theorem step_effect (blank : Char → Bool) (s : Splitter) (c : Char) :
    Effect s (step blank s c) := by
  unfold step
  split
  · -- outside quotes
    split_ifs
    · exact .grown [] rfl (List.append_nil _ ▸ rfl)
    · exact .grown [] rfl (List.append_nil _ ▸ rfl)
    · exact .kept rfl rfl
    · exact .closed rfl rfl
    · exact .grown [c] rfl rfl
  · -- single quotes
    split_ifs
    · exact .kept rfl rfl
    · exact .grown [c] rfl rfl
  · -- double quotes
    split_ifs
    · exact .kept rfl rfl
    · exact .kept rfl rfl
    · exact .grown [c] rfl rfl
  · -- behind a backslash outside quotes
    split_ifs
    · exact .kept rfl rfl
    · exact .grown [c] rfl rfl
  · -- behind a backslash between double quotes
    split_ifs
    · exact .kept rfl rfl
    · exact .grown [c] rfl rfl
    · exact .grown ['\\', c] rfl (by simp [push, within])

/-! ## Section 2: Texts without quotes -/

/-- A character that stands for itself outside quotes. -/
def Plain (blank : Char → Bool) (c : Char) : Prop :=
  c ≠ '\'' ∧ c ≠ '"' ∧ c ≠ '\\' ∧ blank c = false

theorem step_plain {s : Splitter} {c : Char} (hs : s.quoting = .bare) (hc : Plain blank c) :
    step blank s c = s.push c := by
  obtain ⟨hsingle, hdouble, hbackslash, hblank⟩ := hc
  unfold step
  rw [hs]
  simp [hsingle, hdouble, hbackslash, hblank]

/-- A blank ends a word. -/
theorem step_blank {s : Splitter} (hs : s.quoting = .bare) (hspace : blank ' ') :
    step blank s ' ' = s.close := by
  unfold step
  rw [hs]
  simp [hspace]

/-- A text of plain characters goes on with a word. -/
theorem foldl_plain {cs : List Char} (h : ∀ c ∈ cs, Plain blank c) (w : List Char)
    (ended : List (List Char)) :
    cs.foldl (step blank) ⟨.bare, some w, ended⟩ = ⟨.bare, some (w ++ cs), ended⟩ := by
  induction cs generalizing w with
  | nil => rw [List.append_nil, List.foldl_nil]
  | cons c rest ih =>
    rw [List.foldl_cons, step_plain rfl (h c List.mem_cons_self)]
    have hrest := ih (fun d hd => h d (List.mem_cons_of_mem c hd)) (w ++ [c])
    rw [List.append_assoc, List.singleton_append] at hrest
    exact hrest

/-- A text of plain characters begins a word. -/
theorem foldl_plain_of_none {cs : List Char} (hne : cs ≠ []) (h : ∀ c ∈ cs, Plain blank c)
    (ended : List (List Char)) :
    cs.foldl (step blank) ⟨.bare, none, ended⟩ = ⟨.bare, some cs, ended⟩ := by
  obtain ⟨c, rest, rfl⟩ := List.exists_cons_of_ne_nil hne
  rw [List.foldl_cons, step_plain rfl (h c List.mem_cons_self)]
  exact foldl_plain (fun d hd => h d (List.mem_cons_of_mem c hd)) [c] ended

/-- A text of plain characters with a blank behind it is a word. -/
theorem foldl_word (hspace : blank ' ') {cs : List Char} (hne : cs ≠ [])
    (h : ∀ c ∈ cs, Plain blank c) (ended : List (List Char)) :
    (cs ++ [' ']).foldl (step blank) ⟨.bare, none, ended⟩ = ⟨.bare, none, ended ++ [cs]⟩ := by
  have hend : step blank ⟨.bare, some cs, ended⟩ ' ' = ⟨.bare, none, ended ++ [cs]⟩ :=
    step_blank rfl hspace
  rw [List.foldl_append, foldl_plain_of_none hne h, List.foldl_cons, hend, List.foldl_nil]

/-! ## Section 3: Texts between double quotes -/

/-- The quoting is that of double quotes. -/
def IsDouble (q : Quoting) : Prop := q = .double ∨ q = .doubleEscape

/-- Between double quotes only a double quote does not go on with the word, and only a
    backslash takes part in what the next character means. -/
theorem step_double (blank : Char → Bool) {q : Quoting} (hq : IsDouble q) {c : Char} (hc : c ≠ '"')
    (w : List Char) (ended : List (List Char)) :
    ∃ added q', step blank ⟨q, some w, ended⟩ c = ⟨q', some (w ++ added), ended⟩ ∧
      IsDouble q' ∧ (c ≠ '\\' → q' = .double) := by
  rcases hq with rfl | rfl
  · by_cases hbackslash : c = '\\'
    · exact ⟨[], .doubleEscape, by simp [step, within, hbackslash], .inr rfl,
        fun h => absurd hbackslash h⟩
    · exact ⟨[c], .double, by simp [step, push, hc, hbackslash], .inl rfl, fun _ => rfl⟩
  · by_cases hbreak : c = '\n'
    · exact ⟨[], .double, by simp [step, within, hbreak], .inl rfl, fun _ => rfl⟩
    by_cases hescape : escapable c
    · exact ⟨[c], .double, by simp [step, within, push, hbreak, hescape], .inl rfl, fun _ => rfl⟩
    · exact ⟨['\\', c], .double, by simp [step, within, push, hbreak, hescape], .inl rfl,
        fun _ => rfl⟩

/-- A text without double quotes stays between them. Without backslashes it leaves nothing
    open but the quotes, as soon as it has a character to be rid of a backslash before it. -/
theorem foldl_double (blank : Char → Bool) {cs : List Char} (h : '"' ∉ cs) {q : Quoting}
    (hq : IsDouble q) (w : List Char) (ended : List (List Char)) :
    ∃ added q', cs.foldl (step blank) ⟨q, some w, ended⟩ = ⟨q', some (w ++ added), ended⟩ ∧
      IsDouble q' ∧ ('\\' ∉ cs → q = .double ∨ cs ≠ [] → q' = .double) := by
  induction cs generalizing q w with
  | nil =>
    refine ⟨[], q, by rw [List.append_nil, List.foldl_nil], hq, fun _ hor => ?_⟩
    exact hor.resolve_right fun hne => hne rfl
  | cons c rest ih =>
    rw [List.mem_cons, not_or] at h
    obtain ⟨added, q₁, hstep, hq₁, hdouble⟩ := step_double blank hq (Ne.symm h.1) w ended
    obtain ⟨more, q₂, hrest, hq₂, hclosed⟩ := ih h.2 hq₁ (w ++ added)
    refine ⟨added ++ more, q₂, ?_, hq₂, fun hnone _ => ?_⟩
    · rw [List.foldl_cons, hstep, hrest, List.append_assoc]
    · rw [List.mem_cons, not_or] at hnone
      exact hclosed hnone.2 (.inl (hdouble (Ne.symm hnone.1)))

/-! ## Section 4: A word that is spoilt -/

/-- The word behind the first one is not, and will not be, a text without spaces: it has
    ended as another text, or it is open and holds a space. -/
def Spoilt (text : List Char) (s : Splitter) : Prop :=
  (∃ first u, s.ended = [first] ∧ s.word = some u ∧ ' ' ∈ u) ∨
    ∃ first u more, s.ended = first :: u :: more ∧ u ≠ text

section Spoilt

variable {text : List Char}

theorem Spoilt.step (hspace : ' ' ∉ text) {s : Splitter} (h : Spoilt text s) (c : Char) :
    Spoilt text (s.step blank c) := by
  rcases h with ⟨first, u, hended, hword, hu⟩ | ⟨first, u, more, hended, hu⟩
  · rcases step_effect blank s c with ⟨he, hw⟩ | ⟨added, he, hw⟩ | ⟨he, hw⟩
    · exact .inl ⟨first, u, he.trans hended, hw.trans hword, hu⟩
    · refine .inl ⟨first, u ++ added, he.trans hended, ?_, List.mem_append_left added hu⟩
      rw [hw, hword, Option.getD_some]
    · refine .inr ⟨first, u, [], ?_, fun heq => hspace (heq ▸ hu)⟩
      rw [he, hended, hword, Option.toList_some, List.singleton_append]
  · rcases step_effect blank s c with ⟨he, _⟩ | ⟨_, he, _⟩ | ⟨he, _⟩
    · exact .inr ⟨first, u, more, he.trans hended, hu⟩
    · exact .inr ⟨first, u, more, he.trans hended, hu⟩
    · refine .inr ⟨first, u, more ++ s.word.toList, ?_, hu⟩
      rw [he, hended, List.cons_append, List.cons_append]

/-- Nothing that follows mends a spoilt word. -/
theorem Spoilt.foldl (hspace : ' ' ∉ text) {s : Splitter} (h : Spoilt text s) (cs : List Char) :
    Spoilt text (cs.foldl (Splitter.step blank) s) := by
  induction cs generalizing s with
  | nil => exact h
  | cons c rest ih => exact ih (h.step hspace c)

theorem Spoilt.words?_ne (hspace : ' ' ∉ text) {s : Splitter} (h : Spoilt text s)
    (first : List Char) (more : List (List Char)) : s.words? ≠ some (first :: text :: more) := by
  intro hwords
  unfold words? at hwords
  split at hwords
  · have hlist := Option.some.inj hwords
    rcases h with ⟨first', u, hended, hword, hu⟩ | ⟨first', u, more', hended, hu⟩
    · rw [hended, hword] at hlist
      cases hlist
      exact hspace hu
    · rw [hended] at hlist
      cases hlist
      exact hu rfl
  · cases hwords

end Spoilt

/-! ## Section 5: A bare word with quotes in it -/

/-- Single quotes and backslashes have been read, and with them the word that is open has
    fewer than `n` characters. -/
structure Shortened (n : Nat) (s : Splitter) : Prop where
  quoting : s.quoting = .bare ∧ s.word.isSome ∨ s.quoting = .single ∧ s.word.isSome ∨
    s.quoting = .escape
  length_lt : (s.word.getD []).length < n

/-- A character that neither ends a word nor opens double quotes. -/
def Unbroken (blank : Char → Bool) (c : Char) : Prop := c ≠ '"' ∧ c ≠ '\n' ∧ blank c = false

/-- A step adds one character at most. -/
theorem Shortened.step {n : Nat} {s : Splitter} (h : Shortened n s) {c : Char}
    (hc : Unbroken blank c) :
    Shortened (n + 1) (s.step blank c) ∧ (s.step blank c).ended = s.ended := by
  obtain ⟨hdouble, hbreak, hblank⟩ := hc
  obtain ⟨quoting, word, ended⟩ := s
  obtain ⟨hquoting, hlength⟩ := h
  have hkept : (word.getD []).length < n + 1 := Nat.lt_succ_of_lt hlength
  have hpushed : ((word.getD []) ++ [c]).length < n + 1 := by
    rw [List.length_append]
    exact Nat.succ_lt_succ hlength
  rcases hquoting with ⟨rfl, hsome⟩ | ⟨rfl, hsome⟩ | rfl
  · simp only [Splitter.step, hdouble, hblank, if_false, Bool.false_eq_true]
    split_ifs
    · exact ⟨⟨.inr (.inl ⟨rfl, rfl⟩), hkept⟩, rfl⟩
    · exact ⟨⟨.inr (.inr rfl), hkept⟩, rfl⟩
    · exact ⟨⟨.inl ⟨rfl, rfl⟩, hpushed⟩, rfl⟩
  · simp only [Splitter.step]
    split_ifs
    · exact ⟨⟨.inl ⟨rfl, hsome⟩, hkept⟩, rfl⟩
    · exact ⟨⟨.inr (.inl ⟨rfl, rfl⟩), hpushed⟩, rfl⟩
  · simp only [Splitter.step, hbreak, if_false]
    exact ⟨⟨.inl ⟨rfl, rfl⟩, hpushed⟩, rfl⟩

theorem Shortened.foldl {n : Nat} {s : Splitter} (h : Shortened n s) {cs : List Char}
    (hcs : ∀ c ∈ cs, Unbroken blank c) :
    Shortened (n + cs.length) (cs.foldl (Splitter.step blank) s) ∧
      (cs.foldl (Splitter.step blank) s).ended = s.ended := by
  induction cs generalizing n s with
  | nil => exact ⟨h, rfl⟩
  | cons c rest ih =>
    obtain ⟨hnext, hended⟩ := h.step (hcs c List.mem_cons_self)
    obtain ⟨hlast, hended'⟩ := ih hnext fun d hd => hcs d (List.mem_cons_of_mem c hd)
    rw [List.length_cons, Nat.add_comm rest.length, ← Nat.add_assoc]
    exact ⟨hlast, hended'.trans hended⟩

/-- A text with a single quote or a backslash makes a shorter word. Induction on the text,
    for any beginning of the word. -/
theorem shortened_foldl {cs : List Char} (hcs : ∀ c ∈ cs, Unbroken blank c)
    (hquote : '\'' ∈ cs ∨ '\\' ∈ cs) (word : Option (List Char)) (ended : List (List Char)) :
    Shortened ((word.getD []).length + cs.length)
        (cs.foldl (step blank) ⟨.bare, word, ended⟩) ∧
      (cs.foldl (step blank) ⟨.bare, word, ended⟩).ended = ended := by
  induction cs generalizing word with
  | nil => exact absurd hquote (by simp)
  | cons c rest ih =>
    have hc := hcs c List.mem_cons_self
    have hrest : ∀ d ∈ rest, Unbroken blank d := fun d hd => hcs d (List.mem_cons_of_mem c hd)
    rw [List.foldl_cons, List.length_cons, Nat.add_comm rest.length, ← Nat.add_assoc]
    by_cases hsingle : c = '\''
    · have hstep : step blank ⟨.bare, word, ended⟩ c = ⟨.single, some (word.getD []), ended⟩ := by
        simp [step, openQuote, hsingle]
      have hopen : Shortened ((word.getD []).length + 1) ⟨.single, some (word.getD []), ended⟩ :=
        ⟨.inr (.inl ⟨rfl, rfl⟩), Nat.lt_succ_self _⟩
      rw [hstep]
      exact hopen.foldl hrest
    by_cases hbackslash : c = '\\'
    · have hstep : step blank ⟨.bare, word, ended⟩ c = ⟨.escape, word, ended⟩ := by
        simp [step, within, hbackslash]
      have hopen : Shortened ((word.getD []).length + 1) ⟨.escape, word, ended⟩ :=
        ⟨.inr (.inr rfl), Nat.lt_succ_self _⟩
      rw [hstep]
      exact hopen.foldl hrest
    -- no quote yet: the character joins the word
    have hstep := step_plain (s := ⟨.bare, word, ended⟩) rfl ⟨hsingle, hc.1, hbackslash, hc.2.2⟩
    have hquote' : '\'' ∈ rest ∨ '\\' ∈ rest := by
      rcases hquote with h | h
      · exact .inl ((List.mem_cons.mp h).resolve_left fun heq => hsingle heq.symm)
      · exact .inr ((List.mem_cons.mp h).resolve_left fun heq => hbackslash heq.symm)
    have hnext := ih hrest hquote' (some (word.getD [] ++ [c]))
    rw [Option.getD_some, List.length_append, List.length_singleton] at hnext
    rw [hstep]
    exact hnext

/-- The space behind a shorter word spoils it. -/
theorem Shortened.spoilt {text : List Char} {s : Splitter} (h : Shortened text.length s)
    (hspace : blank ' ') {first : List Char} (hended : s.ended = [first]) :
    Spoilt text (s.step blank ' ') := by
  obtain ⟨quoting, word, ended⟩ := s
  obtain ⟨hquoting, hlength⟩ := h
  rcases hquoting with ⟨rfl, hsome⟩ | ⟨rfl, _⟩ | rfl
  · -- the word ends, too short
    obtain ⟨u, rfl⟩ := Option.isSome_iff_exists.mp hsome
    rw [step_blank rfl hspace]
    refine .inr ⟨first, u, [], ?_, fun heq => ?_⟩
    · show ended ++ [u] = [first, u]
      rw [show ended = [first] from hended]
      rfl
    · rw [heq] at hlength
      exact Nat.lt_irrefl _ hlength
  · exact .inl ⟨first, _, hended, rfl, List.mem_append_right _ List.mem_cons_self⟩
  · exact .inl ⟨first, _, hended, rfl, List.mem_append_right _ List.mem_cons_self⟩

/-! ## Section 6: A rendered command -/

/-- What the blanks of a shell have to be for its words to be told: the space is one, and
    all are white space. -/
structure Separates (blank : Char → Bool) : Prop where
  space : blank ' ' = true
  white : ∀ c, blank c = true → isBlank c = true

theorem Separates.eq_false (h : Separates blank) {c : Char} (hc : isBlank c = false) :
    blank c = false := by
  cases hb : blank c with
  | false => rfl
  | true => exact absurd (h.white c hb) (by rw [hc]; decide)

theorem Separates.plain (h : Separates blank) {cs : List Char}
    (hcs : ∀ c ∈ cs, c ≠ '\'' ∧ c ≠ '"' ∧ c ≠ '\\' ∧ isBlank c = false) :
    ∀ c ∈ cs, Plain blank c := by
  intro c hc
  obtain ⟨hsingle, hdouble, hbackslash, hblank⟩ := hcs c hc
  exact ⟨hsingle, hdouble, hbackslash, h.eq_false hblank⟩

/-- Behind the launcher comes the word that introduces the scenario. -/
theorem foldl_run (h : Separates blank) :
    " --run ".toList.foldl (step blank) {} = ⟨.bare, none, ["--run".toList]⟩ := by
  have hname : ∀ c ∈ "--run".toList, Plain blank c :=
    h.plain (List.all_iff_forall_prop.mp (by decide))
  have hfirst : step blank {} ' ' = ⟨.bare, none, []⟩ := step_blank rfl h.space
  have hsplit : " --run ".toList = ' ' :: ("--run".toList ++ [' ']) := rfl
  rw [hsplit, List.foldl_cons, hfirst]
  exact foldl_word h.space (by decide) hname []

/-- Double quotes that are closed are one word with what stands in front of them, if there
    is no backslash in front of the closing one. -/
theorem foldl_quoted {name quoted rest : List Char} (hne : name ≠ [])
    (hname : ∀ c ∈ name, Plain blank c) (hquoted : '"' ∉ quoted) (hrest : '"' ∉ rest)
    (hbackslash : '\\' ∉ rest) (hrest_ne : rest ≠ []) (ended : List (List Char)) :
    ∃ w, (name ++ '"' :: (quoted ++ (rest ++ ['"']))).foldl (step blank) ⟨.bare, none, ended⟩ =
      ⟨.bare, some (name ++ w), ended⟩ := by
  have hopen : step blank ⟨.bare, some name, ended⟩ '"' = ⟨.double, some name, ended⟩ := by
    simp [step, openQuote]
  obtain ⟨a, q, hquoted', hq, _⟩ := foldl_double blank hquoted (.inl rfl) name ended
  obtain ⟨b, q', hrest', _, hclosed⟩ := foldl_double blank hrest hq (name ++ a) ended
  cases hclosed hbackslash (.inr hrest_ne)
  refine ⟨a ++ b, ?_⟩
  rw [List.foldl_append, foldl_plain_of_none hne hname, List.foldl_cons, hopen,
    List.foldl_append, hquoted', List.foldl_append, hrest', ← List.append_assoc]
  simp [step, within]

end Splitter

end ShellWords

open ShellWords ShellWords.Splitter

/-- A command without its launcher. -/
def Template.renderTail (t : Template) (p : Point) : List Char :=
  (t.render p).toList.drop t.launcher.toList.length

section Rendered

variable {blank : Char → Bool} {t : Template}

theorem Template.renderTail_eq (t : Template) (p : Point) :
    t.renderTail p =
      " --run ".toList ++ (t.scenario.toList ++ ' ' :: ("--command-template=".toList ++
        '"' :: (t.program.toList ++ (parameters p ++ ['"'])))) := by
  unfold renderTail
  rw [toList_render, List.drop_left]
  rfl

theorem parameters_ne_nil (p : Point) : Template.parameters p ≠ [] := by
  unfold Template.parameters
  simp

theorem scenario_ne_nil (ht : t.Placed) : t.scenario.toList ≠ [] := by
  intro hnil
  refine ht.scenario_nonblank ?_
  unfold isBlankText
  rw [hnil]
  rfl

/-- No character of the scenario is a blank or a double quote. -/
theorem unbroken_of_mem_scenario (ht : t.Placed) {c : Char} (hc : c ∈ t.scenario.toList) :
    c ≠ '"' ∧ isBlank c = false := by
  have hunbroken := ht.scenario_unbroken c hc
  unfold Settings.breaksWord at hunbroken
  simp only [Bool.or_eq_true, not_or, beq_iff_eq, Bool.not_eq_true] at hunbroken
  exact ⟨hunbroken.2, hunbroken.1⟩

/-- A scenario without single quotes and backslashes leaves the words as they should be. -/
theorem split_renderTail (h : Separates blank) (ht : t.Placed) (hsingle : '\'' ∉ t.scenario.toList)
    (hbackslash : '\\' ∉ t.scenario.toList) (p : Point) :
    ∃ w, split blank (t.renderTail p) =
      some ["--run".toList, t.scenario.toList, "--command-template=".toList ++ w] := by
  have hscenario : ∀ c ∈ t.scenario.toList, Plain blank c := by
    intro c hc
    obtain ⟨hdouble, hblank⟩ := unbroken_of_mem_scenario ht hc
    exact ⟨fun heq => hsingle (heq ▸ hc), hdouble, fun heq => hbackslash (heq ▸ hc),
      h.eq_false hblank⟩
  have hname : ∀ c ∈ "--command-template=".toList, Plain blank c :=
    h.plain (List.all_iff_forall_prop.mp (by decide))
  obtain ⟨w, hw⟩ := foldl_quoted (by decide) hname ht.program_unquoted
    (Template.notMem_parameters (p := p) (by decide) (by decide) (by decide))
    (Template.notMem_parameters (p := p) (by decide) (by decide) (by decide))
    (parameters_ne_nil p) ["--run".toList, t.scenario.toList]
  have hword := foldl_word h.space (scenario_ne_nil ht) hscenario ["--run".toList]
  refine ⟨w, ?_⟩
  unfold split
  rw [t.renderTail_eq, List.append_cons, List.foldl_append, foldl_run h, List.foldl_append, hword]
  show (List.foldl (step blank) ⟨.bare, none, ["--run".toList, t.scenario.toList]⟩ _).words? = _
  rw [hw]
  rfl

/-- A single quote or a backslash in the scenario spoils it. -/
theorem split_renderTail_ne (h : Separates blank) (ht : t.Placed)
    (hquote : '\'' ∈ t.scenario.toList ∨ '\\' ∈ t.scenario.toList) (p : Point)
    (first : List Char) (more : List (List Char)) :
    split blank (t.renderTail p) ≠ some (first :: t.scenario.toList :: more) := by
  have hscenario : ∀ c ∈ t.scenario.toList, Unbroken blank c := by
    intro c hc
    obtain ⟨hdouble, hblank⟩ := unbroken_of_mem_scenario ht hc
    refine ⟨hdouble, ?_, h.eq_false hblank⟩
    rintro rfl
    cases hblank
  have hspace : ' ' ∉ t.scenario.toList := by
    intro hc
    cases (unbroken_of_mem_scenario ht hc).2
  obtain ⟨hshort, hended⟩ := shortened_foldl hscenario hquote none ["--run".toList]
  rw [Option.getD_none, List.length_nil, Nat.zero_add] at hshort
  unfold split
  rw [t.renderTail_eq, List.foldl_append, foldl_run h, List.foldl_append, List.foldl_cons]
  exact ((hshort.spoilt h.space hended).foldl hspace _).words?_ne hspace first more

end Rendered

/-- A shell splits the command of valid settings, without its launcher, into the word
    `--run`, the scenario unchanged and one word for the template exactly if the scenario
    has neither a single quote nor a backslash. Whatever the program holds, and whatever
    the point, they have no part in it. -/
theorem Settings.split_render_iff {blank : Char → Bool} (hspace : blank ' ' = true)
    (hwhite : ∀ c, blank c = true → isBlank c = true) {s : Settings} (hs : s.validate = .ok ())
    (p : Point) :
    (∃ w, split blank ((s.render p).toList.drop s.launcher.toList.length) =
      some ["--run".toList, s.scenario.toList, "--command-template=".toList ++ w]) ↔
    '\'' ∉ s.scenario.toList ∧ '\\' ∉ s.scenario.toList := by
  have hblank : Separates blank := ⟨hspace, hwhite⟩
  have hplaced := (validate_eq_ok_iff.mp hs).2.2
  constructor
  · rintro ⟨w, hw⟩
    constructor
    · intro hquote
      exact split_renderTail_ne hblank hplaced (.inl hquote) p _ _ hw
    · intro hquote
      exact split_renderTail_ne hblank hplaced (.inr hquote) p _ _ hw
  · rintro ⟨hsingle, hbackslash⟩
    exact split_renderTail hblank hplaced hsingle hbackslash p

/-- The blanks of the standard locale are white space. -/
theorem ShellWords.isBlank_of_standardBlank {c : Char} (h : standardBlank c = true) :
    isBlank c = true := by
  unfold standardBlank at h
  simp only [Bool.or_eq_true, beq_iff_eq] at h
  rcases h with (rfl | rfl) | rfl <;> decide

/-- Whatever the texts, the built-in numbers make up one point. -/
theorem Settings.mem_points_standard (t : Template) :
    (⟨.ofNat 800000, .ofNat 50, 1⟩ : Point) ∈ ({ toTemplate := t } : Settings).points := by
  rw [Plan.mem_points_iff, Plan.mem_runs_iff]
  refine ⟨?_, ?_, Int.le_refl _, Int.le_refl _⟩
  · show _ ∈ Preset.standard.rates
    simp only [Preset.rates, List.mem_singleton]
  · show _ ∈ Preset.standard.distances
    simp only [Preset.distances, List.mem_singleton]

/-- A program with a single quote and a backslash at its end leaves the words alone. -/
theorem Settings.split_render_quoting_program :
    let s : Settings := { scenario := "wave-udp-e2e", program := "it's %s\\" }
    let p : Point := ⟨.ofNat 800000, .ofNat 50, 1⟩
    s.validate = .ok () ∧ p ∈ s.points ∧
      ∃ w, split standardBlank ((s.render p).toList.drop s.launcher.toList.length) =
        some ["--run".toList, "wave-udp-e2e".toList, "--command-template=".toList ++ w] := by
  intro s p
  have hvalid : s.validate = .ok () := by decide +kernel
  refine ⟨hvalid, mem_points_standard _, ?_⟩
  exact (split_render_iff rfl (fun _ => isBlank_of_standardBlank) hvalid p).mpr (by decide)

/-- Quotes in a scenario that validation lets through: a single quote is left open in the
    command, and a backslash is lost from the name. -/
theorem Settings.split_render_quoting_scenario :
    let s : Settings := { scenario := "it's" }
    let t : Settings := { scenario := "wave\\udp" }
    let p : Point := ⟨.ofNat 800000, .ofNat 50, 1⟩
    (s.validate = .ok () ∧ p ∈ s.points ∧
      split standardBlank ((s.render p).toList.drop s.launcher.toList.length) = none) ∧
    (t.validate = .ok () ∧ p ∈ t.points ∧
      ∃ w, split standardBlank ((t.render p).toList.drop t.launcher.toList.length) =
        some ["--run".toList, "waveudp".toList, w]) := by
  intro s t p
  refine ⟨⟨by decide +kernel, mem_points_standard _, by decide +kernel⟩,
    by decide +kernel, mem_points_standard _, ?_⟩
  refine ⟨"--command-template=%s --RngRun=1 --RngSeed=1 --distance=50 --intPck=800000".toList, ?_⟩
  decide +kernel

end SimSweep
