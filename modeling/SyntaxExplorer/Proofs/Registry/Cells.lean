import Mathlib.Logic.Function.Basic
import SyntaxExplorer.Proofs.Registry.Loading

/-! Calls for grammars that run at one time.  Each language that was asked for has a cell, which is
filled once.  A call takes the cell of its language, waits until the cell is filled or free, and in
a free one loads the grammar; a load that fails frees the cell for whoever waits.  A call that none
interrupts does what getting a grammar does.
-/

namespace SyntaxExplorer.GrammarRegistry

variable {Tree Query : Type}

-----------------------------------------------------------------------------------------
-- Cells and calls
-----------------------------------------------------------------------------------------

/-- A place for one grammar: the call that is filling it, and what it was filled with. -/
structure Cell (Tree Query : Type) where
  filler : Option Nat := none
  grammar : Option (LoadedGrammar Tree Query) := none

/-- How far a call has come, with the cell that it took. -/
inductive Stage (Tree Query : Type)
  | entering
  | waiting (cell : Nat)
  | loading (cell : Nat) (phase : Phase Tree Query)
  | returned (answer : Except Failure (LoadedGrammar Tree Query))

/-- The cell that a call holds. -/
def Stage.cell? : Stage Tree Query → Option Nat
  | .waiting cell | .loading cell _ => some cell
  | .entering | .returned _ => none

/-- The calls under way at a registry, by their numbers, and the cells, in the order in which they
were made.
-/
structure Traffic (Tree Query : Type) where
  registry : GrammarRegistry Tree Query
  entries : LanguageId → Option Nat := fun _ => none
  cells : Nat → Cell Tree Query := fun _ => {}
  count : Nat := 0
  stages : Nat → Stage Tree Query := fun _ => .entering

namespace Traffic

/-- The cell of a language; a language that nobody asked for has an empty one. -/
def cell (traffic : Traffic Tree Query) (language : LanguageId) : Cell Tree Query :=
  match traffic.entries language with
  | some number => traffic.cells number
  | none => {}

/-- A call comes to a stage. -/
def put (traffic : Traffic Tree Query) (call : Nat) (stage : Stage Tree Query)
    : Traffic Tree Query :=
  { traffic with stages := Function.update traffic.stages call stage }

/-- A language gets the next cell. -/
def enter (traffic : Traffic Tree Query) (language : LanguageId) : Traffic Tree Query :=
  { traffic with
    entries := Function.update traffic.entries language (some traffic.count)
    count := traffic.count + 1 }

/-- A cell gets a content. -/
def fill (traffic : Traffic Tree Query) (number : Nat) (content : Cell Tree Query)
    : Traffic Tree Query :=
  { traffic with cells := Function.update traffic.cells number content }

/-- The grammar of a language is kept. -/
def keep (traffic : Traffic Tree Query) (language : LanguageId)
    (grammar : LoadedGrammar Tree Query) : Traffic Tree Query :=
  { traffic with
    registry := { traffic.registry with loaded := (language, grammar) :: traffic.registry.loaded } }

/-- A call takes the cell of its language, which is a new one if nobody asked for the language. -/
def take (traffic : Traffic Tree Query) (language : LanguageId) (call : Nat)
    : Traffic Tree Query :=
  match traffic.entries language with
  | some number => traffic.put call (.waiting number)
  | none => (traffic.enter language).put call (.waiting traffic.count)

/-- A call looks into its cell: it finds a grammar, waits for another call, or begins to load. -/
def look (traffic : Traffic Tree Query) (call number : Nat) : Traffic Tree Query :=
  match traffic.cells number with
  | ⟨_, some grammar⟩ => traffic.put call (.returned (.ok grammar))
  | ⟨some _, none⟩ => traffic
  | ⟨none, none⟩ => (traffic.fill number ⟨some call, none⟩).put call (.loading number .looking)

/-- A call gets on with its load.  A load that is over fills the cell or frees it. -/
def settle (traffic : Traffic Tree Query) (language : LanguageId) (call number : Nat)
    : Turn Tree Query × GrammarRegistry Tree Query → Traffic Tree Query
  | (.onward next, registry) => { traffic with registry }.put call (.loading number next)
  | (.finished (.ok grammar), registry) =>
      (({ traffic with registry }.keep language grammar).fill number ⟨none, some grammar⟩).put
        call (.returned (.ok grammar))
  | (.finished (.error failure), registry) =>
      ({ traffic with registry }.fill number {}).put call (.returned (.error failure))

/-- One step of a call for a language. -/
def proceed (traffic : Traffic Tree Query) (language : LanguageId) (call : Nat)
    (mishap : Mishap Tree Query) : Traffic Tree Query :=
  match traffic.stages call with
  | .entering => traffic.take language call
  | .waiting number => traffic.look call number
  | .loading number phase =>
      traffic.settle language call number (traffic.registry.advance language mishap phase)
  | .returned _ => traffic

-----------------------------------------------------------------------------------------
-- The cells of languages
-----------------------------------------------------------------------------------------

/-- Cells are given out in order, each to one language, and calls hold those of their languages. -/
structure Mapped (traffic : Traffic Tree Query) (languages : Nat → LanguageId) : Prop where
  numbered : ∀ language number, traffic.entries language = some number → number < traffic.count
  apart
    : ∀ language other number,
        traffic.entries language = some number
        → traffic.entries other = some number
        → other = language
  unused : ∀ number, traffic.count ≤ number → traffic.cells number = {}
  own
    : ∀ call number,
        (traffic.stages call).cell? = some number
        → traffic.entries (languages call) = some number

variable {traffic : Traffic Tree Query} {languages : Nat → LanguageId}

/-- A call is at the stage that it came to. -/
theorem stages_put_self (traffic : Traffic Tree Query) (call : Nat) (stage : Stage Tree Query)
    : (traffic.put call stage).stages call = stage :=
  Function.update_self _ _ _

/-- Other calls stay where they are. -/
theorem stages_put_of_ne (traffic : Traffic Tree Query) {call other : Nat}
    (different : other ≠ call) (stage : Stage Tree Query)
    : (traffic.put call stage).stages other = traffic.stages other :=
  Function.update_of_ne different _ _

/-- A language that gets a cell has the next one. -/
theorem entries_enter_self (traffic : Traffic Tree Query) (language : LanguageId)
    : (traffic.enter language).entries language = some traffic.count :=
  Function.update_self _ _ _

/-- Other languages have the cells that they had. -/
theorem entries_enter_of_ne (traffic : Traffic Tree Query) {language other : LanguageId}
    (different : other ≠ language)
    : (traffic.enter language).entries other = traffic.entries other :=
  Function.update_of_ne different _ _

/-- A call that comes to a stage with the cell of its language leaves the cells well. -/
theorem Mapped.put {call : Nat} {stage : Stage Tree Query} (mapped : traffic.Mapped languages)
    (holds : ∀ number,
      stage.cell? = some number → traffic.entries (languages call) = some number)
    : (traffic.put call stage).Mapped languages where
  numbered := mapped.numbered
  apart := mapped.apart
  unused := mapped.unused
  own other number held := by
    by_cases same : other = call
    · subst same
      rw [stages_put_self] at held
      exact holds number held
    · rw [stages_put_of_ne traffic same] at held
      exact mapped.own other number held

/-- A language without a cell may get the next one. -/
theorem Mapped.enter {language : LanguageId} (mapped : traffic.Mapped languages)
    (unknown : traffic.entries language = none)
    : (traffic.enter language).Mapped languages where
  numbered other number filed := by
    by_cases same : other = language
    · subst same
      rw [entries_enter_self] at filed
      cases filed
      exact Nat.lt_succ_self _
    · rw [entries_enter_of_ne traffic same] at filed
      exact Nat.lt_succ_of_lt (mapped.numbered other number filed)
  apart first second number filed filed' := by
    -- A number that was given out before is not the next one.
    have old (other) (different : other ≠ language)
        (known : (traffic.enter language).entries other = some number)
        : traffic.entries other = some number ∧ number ≠ traffic.count := by
      rw [entries_enter_of_ne traffic different] at known
      exact ⟨known, Nat.ne_of_lt (mapped.numbered other number known)⟩
    have new (known : (traffic.enter language).entries language = some number)
        : number = traffic.count := by
      rw [entries_enter_self] at known
      exact (Option.some.inj known).symm
    by_cases same : first = language <;> by_cases same' : second = language
    · rw [same, same']
    · subst same
      exact ((old second same' filed').2 (new filed)).elim
    · subst same'
      exact ((old first same filed).2 (new filed')).elim
    · exact mapped.apart first second number (old first same filed).1 (old second same' filed').1
  unused number above := mapped.unused number (Nat.le_of_succ_le above)
  own call number held := by
    have known := mapped.own call number held
    have different : languages call ≠ language := by
      intro same
      rw [same, unknown] at known
      cases known
    rw [entries_enter_of_ne traffic different]
    exact known

/-- The cell of a language may get any content. -/
theorem Mapped.fill {language : LanguageId} {number : Nat} (mapped : traffic.Mapped languages)
    (filed : traffic.entries language = some number) (content : Cell Tree Query)
    : (traffic.fill number content).Mapped languages where
  numbered := mapped.numbered
  apart := mapped.apart
  unused other above := by
    have different : other ≠ number :=
      Nat.ne_of_gt (Nat.lt_of_lt_of_le (mapped.numbered language number filed) above)
    exact (Function.update_of_ne different _ _).trans (mapped.unused other above)
  own := mapped.own

/-- What is in the registry has no part in who has which cell. -/
theorem Mapped.with_registry (mapped : traffic.Mapped languages)
    (registry : GrammarRegistry Tree Query)
    : { traffic with registry }.Mapped languages :=
  ⟨mapped.numbered, mapped.apart, mapped.unused, mapped.own⟩

/-- A grammar that is kept has no part in who has which cell. -/
theorem Mapped.keep (mapped : traffic.Mapped languages) (language : LanguageId)
    (grammar : LoadedGrammar Tree Query)
    : (traffic.keep language grammar).Mapped languages :=
  mapped.with_registry _

/-- The stage of a call has no part in what is in the cells. -/
theorem cell_put (traffic : Traffic Tree Query) (call : Nat) (stage : Stage Tree Query)
    : (traffic.put call stage).cell = traffic.cell :=
  rfl

/-- A language that gets a cell gets an empty one. -/
theorem cell_enter {language : LanguageId} (mapped : traffic.Mapped languages)
    (unknown : traffic.entries language = none)
    : (traffic.enter language).cell = traffic.cell := by
  funext other
  by_cases same : other = language
  · subst same
    simp only [cell, enter, Function.update_self, unknown, mapped.unused _ (Nat.le_refl _)]
  · simp only [cell, enter, Function.update_of_ne same]

/-- A content that a cell gets is that of the language that has the cell, and of no other. -/
theorem cell_fill {language : LanguageId} {number : Nat} (mapped : traffic.Mapped languages)
    (filed : traffic.entries language = some number) (content : Cell Tree Query)
    : (traffic.fill number content).cell = Function.update traffic.cell language content := by
  funext other
  by_cases same : other = language
  · subst same
    simp only [cell, fill, filed, Function.update_self]
  · rw [Function.update_of_ne same]
    simp only [cell, fill]
    cases known : traffic.entries other with
    | none => rfl
    | some another =>
        have different : another ≠ number := by
          rintro rfl
          exact same (mapped.apart language other another filed known)
        exact Function.update_of_ne different _ _

/-- The cell that a call holds is that of its language. -/
theorem Mapped.cells_eq {call number : Nat} (mapped : traffic.Mapped languages)
    (held : (traffic.stages call).cell? = some number)
    : traffic.cells number = traffic.cell (languages call) := by
  simp only [cell, mapped.own call number held]

-----------------------------------------------------------------------------------------
-- What comes of a step
-----------------------------------------------------------------------------------------

/-- What comes of a step of a call, at the cell of its language: the call takes the cell, finds a
grammar in it, waits for another call, begins to load, gets on with the load, or ends it with the
grammar or without one.
-/
inductive Passage (registry : GrammarRegistry Tree Query) (language : LanguageId) (call : Nat)
    : Stage Tree Query → Cell Tree Query → Stage Tree Query → Cell Tree Query
      → GrammarRegistry Tree Query → Prop
  | entered (cell number)
    : Passage registry language call .entering cell (.waiting number) cell registry
  | found (number filler grammar)
    : Passage registry language call (.waiting number) ⟨filler, some grammar⟩
        (.returned (.ok grammar)) ⟨filler, some grammar⟩ registry
  | waited (number other)
    : Passage registry language call (.waiting number) ⟨some other, none⟩
        (.waiting number) ⟨some other, none⟩ registry
  | began (number)
    : Passage registry language call (.waiting number) {}
        (.loading number .looking) ⟨some call, none⟩ registry
  | progressed (number cell) {phase next reached}
    (came : Progress registry language phase (.onward next) reached)
    : Passage registry language call (.loading number phase) cell (.loading number next) cell
        reached
  | succeeded (number cell) {phase grammar reached}
    (came : Progress registry language phase (.finished (.ok grammar)) reached)
    : Passage registry language call (.loading number phase) cell
        (.returned (.ok grammar)) ⟨none, some grammar⟩
        { reached with loaded := (language, grammar) :: reached.loaded }
  | failed (number cell) {phase failure reached}
    (came : Progress registry language phase (.finished (.error failure)) reached)
    : Passage registry language call (.loading number phase) cell
        (.returned (.error failure)) {} reached
  | rested (answer cell)
    : Passage registry language call (.returned answer) cell (.returned answer) cell registry

/-- What a step of a call leads to: the cells are well, and something comes of it at the cell of its
language.  All other calls and cells are left alone.
-/
structure Reaches (traffic : Traffic Tree Query) (languages : Nat → LanguageId) (call : Nat)
    (next : Traffic Tree Query)
    : Prop where
  mapped : next.Mapped languages
  passage
    : Passage traffic.registry (languages call) call (traffic.stages call)
        (traffic.cell (languages call)) (next.stages call) (next.cell (languages call))
        next.registry
  stages : ∀ other, other ≠ call → next.stages other = traffic.stages other
  cells : ∀ language, language ≠ languages call → next.cell language = traffic.cell language

/-- A call that comes to a stage after changes at the cell of its language reaches what comes of
these.
-/
theorem Reaches.put {middle : Traffic Tree Query} {call : Nat} {stage : Stage Tree Query}
    {content : Cell Tree Query} (mapped : middle.Mapped languages)
    (same : middle.stages = traffic.stages)
    (filled : middle.cell = Function.update traffic.cell (languages call) content)
    (holds : ∀ number,
      stage.cell? = some number → middle.entries (languages call) = some number)
    (passage : Passage traffic.registry (languages call) call (traffic.stages call)
      (traffic.cell (languages call)) stage content middle.registry)
    : traffic.Reaches languages call (middle.put call stage) where
  mapped := mapped.put holds
  passage := by
    have content_eq : (middle.put call stage).cell (languages call) = content := by
      rw [cell_put, filled, Function.update_self]
    rw [content_eq, stages_put_self]
    exact passage
  stages other different := by rw [stages_put_of_ne middle different, same]
  cells language different := by rw [cell_put, filled, Function.update_of_ne different]

/-- A call of which nothing comes reaches what there was. -/
theorem Reaches.stay {call : Nat} (mapped : traffic.Mapped languages)
    (passage : Passage traffic.registry (languages call) call (traffic.stages call)
      (traffic.cell (languages call)) (traffic.stages call) (traffic.cell (languages call))
      traffic.registry)
    : traffic.Reaches languages call traffic :=
  ⟨mapped, passage, fun _ _ => rfl, fun _ _ => rfl⟩

/-- A call that takes its cell leads there. -/
theorem proceed_entering {call : Nat} (mapped : traffic.Mapped languages)
    (stage : traffic.stages call = .entering) (mishap : Mishap Tree Query)
    : traffic.Reaches languages call (traffic.proceed (languages call) call mishap) := by
  have entered (number : Nat)
      : Passage traffic.registry (languages call) call (traffic.stages call)
          (traffic.cell (languages call)) (.waiting number) (traffic.cell (languages call))
          traffic.registry := by
    rw [stage]
    exact .entered _ _
  have same : traffic.cell
      = Function.update traffic.cell (languages call) (traffic.cell (languages call)) :=
    (Function.update_eq_self _ _).symm
  simp only [proceed, stage, take]
  cases known : traffic.entries (languages call) with
  | some number => exact .put mapped rfl same (fun _ held => held ▸ known) (entered _)
  | none =>
      refine .put (mapped.enter known) rfl ((cell_enter mapped known).trans same) ?_ (entered _)
      rintro _ ⟨⟩
      exact entries_enter_self _ _

/-- A call that waits at its cell leads there. -/
theorem proceed_waiting {call number : Nat} (mapped : traffic.Mapped languages)
    (stage : traffic.stages call = .waiting number) (mishap : Mishap Tree Query)
    : traffic.Reaches languages call (traffic.proceed (languages call) call mishap) := by
  have held : (traffic.stages call).cell? = some number := by rw [stage, Stage.cell?]
  have filed := mapped.own call number held
  have content_eq := mapped.cells_eq held
  simp only [proceed, stage, look]
  rcases content : traffic.cells number with ⟨filler, grammar | grammar⟩
  · cases filler with
    | none =>
        refine .put (mapped.fill filed _) rfl (cell_fill mapped filed _) ?_ ?_
        · rintro _ ⟨⟩
          exact filed
        · rw [stage, ← content_eq, content]
          exact .began number
    | some other =>
        refine .stay mapped ?_
        rw [stage, ← content_eq, content]
        exact .waited number other
  · refine .put mapped rfl (Function.update_eq_self _ _).symm nofun ?_
    rw [stage, ← content_eq, content]
    exact .found number filler grammar

/-- A call that loads leads there. -/
theorem proceed_loading {call number : Nat} {phase : Phase Tree Query}
    (mapped : traffic.Mapped languages) (stage : traffic.stages call = .loading number phase)
    (mishap : Mishap Tree Query)
    : traffic.Reaches languages call (traffic.proceed (languages call) call mishap) := by
  have held : (traffic.stages call).cell? = some number := by rw [stage, Stage.cell?]
  have filed := mapped.own call number held
  have came := traffic.registry.advance_progress (languages call) mishap phase
  simp only [proceed, stage]
  generalize traffic.registry.advance (languages call) mishap phase = reached at came
  obtain ⟨next | failure | grammar, registry⟩ := reached
  · refine .put (mapped.with_registry registry) rfl (Function.update_eq_self _ _).symm ?_ ?_
    · rintro _ ⟨⟩
      exact filed
    · rw [stage]
      exact .progressed number _ came
  · refine .put ((mapped.with_registry registry).fill filed {}) rfl
      (cell_fill (mapped.with_registry registry) filed {}) nofun ?_
    rw [stage]
    exact .failed number _ came
  · have kept := (mapped.with_registry registry).keep (languages call) grammar
    refine .put (kept.fill filed _) rfl (cell_fill kept filed _) nofun ?_
    rw [stage]
    exact .succeeded number _ came

/-- Each step of a call leads there. -/
theorem proceed_reaches (mapped : traffic.Mapped languages) (call : Nat)
    (mishap : Mishap Tree Query)
    : traffic.Reaches languages call (traffic.proceed (languages call) call mishap) := by
  cases stage : traffic.stages call with
  | entering => exact proceed_entering mapped stage mishap
  | waiting number => exact proceed_waiting mapped stage mishap
  | loading number phase => exact proceed_loading mapped stage mishap
  | returned answer =>
      simp only [proceed, stage]
      refine .stay mapped ?_
      rw [stage]
      exact .rested answer _

-----------------------------------------------------------------------------------------
-- A call that none interrupts
-----------------------------------------------------------------------------------------

/-- One step of a call without mishaps. -/
def goOn (language : LanguageId) (call : Nat) (traffic : Traffic Tree Query)
    : Traffic Tree Query :=
  traffic.proceed language call {}

/-- A call that has returned takes no more steps. -/
theorem goOn_returned {call : Nat} {answer : Except Failure (LoadedGrammar Tree Query)}
    (returned : traffic.stages call = .returned answer) (language : LanguageId) (count : Nat)
    : (goOn language call)^[count] traffic = traffic := by
  refine Function.iterate_fixed ?_ count
  simp only [goOn, proceed, returned]

/-- What the registry keeps of a load that is over. -/
def kept (registry : GrammarRegistry Tree Query) (language : LanguageId)
    : Except Failure (LoadedGrammar Tree Query) → GrammarRegistry Tree Query
  | .ok grammar => { registry with loaded := (language, grammar) :: registry.loaded }
  | .error _ => registry

/-- A call ends with its load, by induction over the steps of the load. -/
theorem goOn_loading {language : LanguageId} {call number count : Nat}
    {phase : Phase Tree Query} {answer : Except Failure (LoadedGrammar Tree Query)}
    {registry : GrammarRegistry Tree Query}
    (stage : traffic.stages call = .loading number phase)
    (loaded : (pursue language)^[count] (.onward phase, traffic.registry)
      = (.finished answer, registry))
    : ((goOn language call)^[count] traffic).stages call = .returned answer
      ∧ ((goOn language call)^[count] traffic).registry = kept registry language answer := by
  induction count generalizing traffic phase with
  | zero => cases loaded
  | succ count ih =>
      have step : goOn language call traffic
          = traffic.settle language call number (traffic.registry.advance language {} phase) := by
        simp only [goOn, proceed, stage]
      rw [Function.iterate_succ_apply, pursue] at loaded
      rw [Function.iterate_succ_apply, step]
      generalize traffic.registry.advance language {} phase = reached at loaded
      obtain ⟨next | failure | grammar, reached⟩ := reached
      · exact ih (stages_put_self _ _ _) loaded
      · rw [pursue_finished] at loaded
        cases loaded
        rw [settle, goOn_returned (stages_put_self _ _ _)]
        exact ⟨stages_put_self _ _ _, rfl⟩
      · rw [pursue_finished] at loaded
        cases loaded
        rw [settle, goOn_returned (stages_put_self _ _ _)]
        exact ⟨stages_put_self _ _ _, rfl⟩

/-- A call that takes its cell waits at one with what the cell of its language holds. -/
theorem goOn_entering {call : Nat} (mapped : traffic.Mapped languages)
    (stage : traffic.stages call = .entering)
    : ∃ number,
        (goOn (languages call) call traffic).stages call = .waiting number
        ∧ (goOn (languages call) call traffic).cells number = traffic.cell (languages call)
        ∧ (goOn (languages call) call traffic).registry = traffic.registry := by
  have step : goOn (languages call) call traffic = traffic.take (languages call) call := by
    simp only [goOn, proceed, stage]
  rw [step, take, cell]
  cases known : traffic.entries (languages call) with
  | some number => exact ⟨number, stages_put_self _ _ _, rfl, rfl⟩
  | none =>
      exact ⟨traffic.count, stages_put_self _ _ _, mapped.unused _ (Nat.le_refl _), rfl⟩

/-- Getting a grammar is a call that none interrupts, if the registry keeps what is in the cell of the
language and nobody is filling the cell.
-/
theorem goOn_get {call : Nat} (mapped : traffic.Mapped languages)
    (stage : traffic.stages call = .entering)
    (content : traffic.cell (languages call) = ⟨none, traffic.registry.find? (languages call)⟩)
    : ((goOn (languages call) call)^[8] traffic).stages call
        = .returned (traffic.registry.get (languages call)).1
      ∧ ((goOn (languages call) call)^[8] traffic).registry
        = (traffic.registry.get (languages call)).2 := by
  obtain ⟨number, waiting, held, same⟩ := goOn_entering mapped stage
  rw [Function.iterate_succ_apply, get]
  generalize goOn (languages call) call traffic = entered at waiting held same ⊢
  have step : goOn (languages call) call entered = entered.look call number := by
    simp only [goOn, proceed, waiting]
  rw [Function.iterate_succ_apply, step, look, held, content]
  cases traffic.registry.find? (languages call) with
  | some grammar =>
      simp only
      rw [goOn_returned (stages_put_self _ _ _)]
      exact ⟨stages_put_self _ _ _, same⟩
  | none =>
      have loaded := pursue_looking traffic.registry (languages call)
      rw [← same] at loaded ⊢
      generalize entered.registry.load (languages call) = reached at loaded ⊢
      obtain ⟨failure | grammar, reached⟩ := reached
      · exact goOn_loading (stages_put_self _ _ _) loaded
      · exact goOn_loading (stages_put_self _ _ _) loaded

end Traffic

end SyntaxExplorer.GrammarRegistry
