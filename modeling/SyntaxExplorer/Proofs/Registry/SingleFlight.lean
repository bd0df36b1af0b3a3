import Mathlib.Data.Nat.Init
import SyntaxExplorer.Proofs.Registry.Cells
import SyntaxExplorer.Proofs.Session.CommentLines

/-! Of calls that run at one time, one alone loads a language, and a language that is loaded is loaded
once.  A cell and the call that fills it know of each other, so no second call finds the cell free;
and what a cell was filled with stays.
-/

namespace SyntaxExplorer.GrammarRegistry

variable {Tree Query : Type}

-----------------------------------------------------------------------------------------
-- Schedules
-----------------------------------------------------------------------------------------

/-- What happens next: a call takes a step, or somebody else changes the folder of libraries. -/
inductive Move (Tree Query : Type)
  | proceed (call : Nat) (mishap : Mishap Tree Query)
  | disturb (folder : Folder (Library Tree Query))

/-- What a move leads to. -/
def Traffic.step (traffic : Traffic Tree Query) (languages : Nat → LanguageId)
    : Move Tree Query → Traffic Tree Query
  | .proceed call mishap => traffic.proceed (languages call) call mishap
  | .disturb folder => { traffic with registry := { traffic.registry with folder } }

/-- Any number of calls for languages at a registry that has loaded none, and the order in which their
steps come.
-/
structure Schedule (Tree Query : Type) where
  registry : GrammarRegistry Tree Query
  unloaded : registry.loaded = []
  languages : Nat → LanguageId
  moves : Nat → Move Tree Query

/-- The call is loading. -/
def Stage.Loads (stage : Stage Tree Query) : Prop := ∃ number phase, stage = .loading number phase

namespace Schedule

/-- How far the calls have come at a time. -/
def traffic (schedule : Schedule Tree Query) : Nat → Traffic Tree Query
  | 0 => { registry := schedule.registry }
  | time + 1 => (schedule.traffic time).step schedule.languages (schedule.moves time)

/-- The registry at a time. -/
def registryAt (schedule : Schedule Tree Query) (time : Nat) : GrammarRegistry Tree Query :=
  (schedule.traffic time).registry

/-- How far a call has come at a time. -/
def stage (schedule : Schedule Tree Query) (time call : Nat) : Stage Tree Query :=
  (schedule.traffic time).stages call

/-- The cell of a language at a time. -/
def cell (schedule : Schedule Tree Query) (time : Nat) (language : LanguageId)
    : Cell Tree Query :=
  (schedule.traffic time).cell language

/-- At a time a call is loading its language. -/
def Loads (schedule : Schedule Tree Query) (time call : Nat) : Prop :=
  (schedule.stage time call).Loads

/-- At a time a call takes the step with which it begins to load. -/
structure Begins (schedule : Schedule Tree Query) (time call : Nat) : Prop where
  before : ¬ schedule.Loads time call
  loads : schedule.Loads (time + 1) call

/-- At a time a call takes the step with which its load ends. -/
structure Ends (schedule : Schedule Tree Query) (time call : Nat)
    (answer : Except Failure (LoadedGrammar Tree Query))
    : Prop where
  loads : schedule.Loads time call
  returned : schedule.stage (time + 1) call = .returned answer

/-- Before a time a load of a language succeeded. -/
def HasLoaded (schedule : Schedule Tree Query) (time : Nat) (language : LanguageId) : Prop :=
  ∃ earlier call grammar,
    earlier < time
    ∧ schedule.languages call = language
    ∧ schedule.Ends earlier call (.ok grammar)

/-- A grammar came of the only load of its language that succeeds. -/
def LoadedOnce (schedule : Schedule Tree Query) (language : LanguageId)
    (grammar : LoadedGrammar Tree Query)
    : Prop :=
  ∃ time call,
    schedule.languages call = language
    ∧ schedule.Ends time call (.ok grammar)
    ∧ ∀ again other another,
        schedule.languages other = language
        → schedule.Ends again other (.ok another)
        → again = time ∧ other = call

end Schedule

-----------------------------------------------------------------------------------------
-- One step
-----------------------------------------------------------------------------------------

/-- A language without a grammar is none of those that the registry keeps. -/
theorem find?_eq_none_iff {registry : GrammarRegistry Tree Query} {language : LanguageId}
    : registry.find? language = none ↔ language ∉ registry.loaded.map Prod.fst := by
  simp only [find?, List.lookup_eq_none_iff, List.mem_map, bne_iff_ne, not_exists, not_and]
  exact forall₂_congr fun _ _ => ne_comm

/-- What a call is at fits what is in the cell of its language. -/
def Stage.Fits (call : Nat) (cell : Cell Tree Query) : Stage Tree Query → Prop
  | .loading _ _ => cell = ⟨some call, none⟩
  | .returned (.ok grammar) => cell.grammar = some grammar
  | .entering | .waiting _ | .returned (.error _) => True

namespace Traffic.Passage

variable {registry next : GrammarRegistry Tree Query} {language : LanguageId} {call other : Nat}
variable {stage reached : Stage Tree Query} {cell content : Cell Tree Query}

/-- A call keeps fitting its cell. -/
theorem fits (passage : Passage registry language call stage cell reached content next)
    (before : stage.Fits call cell)
    : reached.Fits call content := by
  cases passage with
  | entered | waited | failed => trivial
  | found | began | succeeded => rfl
  | progressed | rested => exact before

/-- Other calls keep fitting the cell. -/
theorem fits_of_ne (passage : Passage registry language call stage cell reached content next)
    (before : stage.Fits call cell) (different : other ≠ call) {held : Stage Tree Query}
    (own : held.Fits other cell)
    : held.Fits other content := by
  cases passage with
  | entered | found | waited | progressed | rested => exact own
  | began =>
      -- A free cell has no place for a call that loads or a grammar that was returned.
      match held, own with
      | .entering, _ | .waiting _, _ | .returned (.error _), _ => trivial
  | succeeded | failed =>
      rw [Stage.Fits] at before
      subst before
      match held, own with
      | .entering, _ | .waiting _, _ | .returned (.error _), _ => trivial
      | .loading _ _, own =>
          cases own
          exact (different rfl).elim

/-- A cell is filled by a call that loads, or still by the other call that filled it. -/
theorem filler_eq (passage : Passage registry language call stage cell reached content next)
    (filled : cell.filler = some call → stage.Loads) (filler : content.filler = some other)
    : (other = call ∧ reached.Loads) ∨ (other ≠ call ∧ cell.filler = some other) := by
  by_cases same : other = call
  · subst same
    refine .inl ⟨rfl, ?_⟩
    cases passage with
    | began number => exact ⟨number, .looking, rfl⟩
    | progressed number => exact ⟨number, _, rfl⟩
    | entered | found | waited | rested =>
        obtain ⟨_, _, stage⟩ := filled filler
        cases stage
    | succeeded | failed => cases filler
  · refine .inr ⟨same, ?_⟩
    cases passage with
    | entered | found | waited | progressed | rested => exact filler
    | began =>
        cases filler
        exact (same rfl).elim
    | succeeded | failed => cases filler

/-- A call keeps nothing of other languages. -/
theorem find?_of_ne (passage : Passage registry language call stage cell reached content next)
    {another : LanguageId} (different : another ≠ language)
    : next.find? another = registry.find? another := by
  cases passage with
  | entered | found | waited | began | rested => rfl
  | progressed _ _ came | failed _ _ came => rw [find?, came.loaded_eq, find?]
  | succeeded _ _ came =>
      have skipped : (another == language) = false := beq_eq_false_iff_ne.mpr different
      rw [find?, List.lookup_cons, skipped, came.loaded_eq, find?]

/-- The registry keeps what is in the cell. -/
theorem known (passage : Passage registry language call stage cell reached content next)
    (before : stage.Fits call cell) (known : cell.grammar = registry.find? language)
    : content.grammar = next.find? language := by
  cases passage with
  | entered | found | waited | began | rested => exact known
  | progressed _ _ came => rw [find?, came.loaded_eq, known, find?]
  | succeeded => exact List.lookup_cons_self.symm
  | failed _ _ came =>
      rw [Stage.Fits] at before
      rw [find?, came.loaded_eq, ← find?, ← known, before]

/-- The grammar in the cell has the language of the cell. -/
theorem named (passage : Passage registry language call stage cell reached content next)
    (named : ∀ grammar, cell.grammar = some grammar → grammar.language = language)
    (grammar : LoadedGrammar Tree Query) (held : content.grammar = some grammar)
    : grammar.language = language := by
  cases passage with
  | entered | found | waited | progressed | rested => exact named grammar held
  | began | failed => cases held
  | succeeded _ _ came =>
      cases held
      exact came.language_eq

/-- The registry keeps each language once. -/
theorem distinct (passage : Passage registry language call stage cell reached content next)
    (before : stage.Fits call cell) (known : cell.grammar = registry.find? language)
    (distinct : (registry.loaded.map Prod.fst).Nodup)
    : (next.loaded.map Prod.fst).Nodup := by
  cases passage with
  | entered | found | waited | began | rested => exact distinct
  | progressed _ _ came | failed _ _ came => rwa [came.loaded_eq]
  | succeeded _ _ came =>
      rw [List.map_cons, List.nodup_cons, came.loaded_eq]
      refine ⟨find?_eq_none_iff.mp ?_, distinct⟩
      rw [Stage.Fits] at before
      rw [← known, before]

/-- A cell that has a grammar keeps it. -/
theorem grammar_of_held (passage : Passage registry language call stage cell reached content next)
    (before : stage.Fits call cell) {grammar : LoadedGrammar Tree Query}
    (held : cell.grammar = some grammar)
    : content.grammar = some grammar := by
  cases passage with
  | entered | found | waited | progressed | rested => exact held
  | began => cases held
  | succeeded | failed =>
      rw [Stage.Fits] at before
      rw [before] at held
      cases held

/-- A cell gets a grammar from the load that ends with it. -/
theorem grammar_of_empty
    (passage : Passage registry language call stage cell reached content next)
    (empty : cell.grammar = none) {grammar : LoadedGrammar Tree Query}
    (held : content.grammar = some grammar)
    : stage.Loads ∧ reached = .returned (.ok grammar) := by
  cases passage with
  | entered | found | waited | progressed | rested => cases empty.symm.trans held
  | began | failed => cases held
  | @succeeded number _ phase =>
      cases held
      exact ⟨⟨number, phase, rfl⟩, rfl⟩

/-- A call that begins to load finds the cell empty. -/
theorem empty_of_begun (passage : Passage registry language call stage cell reached content next)
    (before : ¬ stage.Loads) (loads : reached.Loads)
    : cell = {} := by
  cases passage with
  | began => rfl
  | entered | found | waited | succeeded | failed | rested =>
      obtain ⟨_, _, loading⟩ := loads
      cases loading
  | progressed number => exact (before ⟨number, _, rfl⟩).elim

/-- An empty cell stays empty unless a call begins to load. -/
theorem empty_or_begun (passage : Passage registry language call stage cell reached content next)
    (before : stage.Fits call cell) (empty : cell = {})
    : content = {} ∨ ¬ stage.Loads ∧ reached.Loads := by
  cases passage with
  | entered | rested => exact .inl empty
  | found | waited => cases empty
  | began number =>
      refine .inr ⟨?_, number, .looking, rfl⟩
      rintro ⟨_, _, loading⟩
      cases loading
  | progressed | succeeded =>
      rw [Stage.Fits, empty] at before
      cases before
  | failed => exact .inl rfl

/-- A call that waits at an empty cell begins to load. -/
theorem begun_of_waiting {number : Nat}
    (passage : Passage registry language call (.waiting number) cell reached content next)
    (empty : cell = {})
    : reached.Loads := by
  cases passage with
  | found | waited => cases empty
  | began => exact ⟨number, .looking, rfl⟩

/-- A load that fails leaves the cell empty and keeps nothing. -/
theorem empty_of_failed {failure : Failure}
    (passage : Passage registry language call stage cell (.returned (.error failure)) content next)
    (loads : stage.Loads)
    : content = {} ∧ next.loaded = registry.loaded := by
  cases passage with
  | failed _ _ came => exact ⟨rfl, came.loaded_eq⟩
  | rested =>
      obtain ⟨_, _, loading⟩ := loads
      cases loading

end Traffic.Passage

-----------------------------------------------------------------------------------------
-- All moves
-----------------------------------------------------------------------------------------

/-- Calls, cells and registry agree: who loads fills the cell of its language, who fills a cell loads,
what was returned is in the cell, and the registry keeps what is in the cells.
-/
structure Traffic.Sound (traffic : Traffic Tree Query) (languages : Nat → LanguageId) : Prop where
  mapped : traffic.Mapped languages
  fits : ∀ call, (traffic.stages call).Fits call (traffic.cell (languages call))
  filled
    : ∀ language call,
        (traffic.cell language).filler = some call
        → languages call = language ∧ (traffic.stages call).Loads
  known : ∀ language, (traffic.cell language).grammar = traffic.registry.find? language
  named
    : ∀ language grammar,
        (traffic.cell language).grammar = some grammar → grammar.language = language
  distinct : (traffic.registry.loaded.map Prod.fst).Nodup

/-- What a step of a call leads to agrees if all did before. -/
theorem Traffic.Sound.reaches {traffic next : Traffic Tree Query} {languages : Nat → LanguageId}
    {call : Nat} (sound : traffic.Sound languages)
    (reaches : traffic.Reaches languages call next)
    : next.Sound languages where
  mapped := reaches.mapped
  fits other := by
    by_cases same : other = call
    · subst same
      exact reaches.passage.fits (sound.fits other)
    · rw [reaches.stages other same]
      by_cases own : languages other = languages call
      · have fits := sound.fits other
        rw [own] at fits ⊢
        exact reaches.passage.fits_of_ne (sound.fits call) same fits
      · rw [reaches.cells _ own]
        exact sound.fits other
  filled language other filler := by
    by_cases own : language = languages call
    · subst own
      have filled := fun filler => (sound.filled (languages call) call filler).2
      rcases reaches.passage.filler_eq filled filler with ⟨rfl, loads⟩ | ⟨different, held⟩
      · exact ⟨rfl, loads⟩
      · rw [reaches.stages other different]
        exact sound.filled _ other held
    · rw [reaches.cells language own] at filler
      obtain ⟨rfl, loads⟩ := sound.filled language other filler
      have different : other ≠ call := by
        rintro rfl
        exact own rfl
      rw [reaches.stages other different]
      exact ⟨rfl, loads⟩
  known language := by
    by_cases own : language = languages call
    · subst own
      exact reaches.passage.known (sound.fits call) (sound.known _)
    · rw [reaches.cells language own, reaches.passage.find?_of_ne own]
      exact sound.known language
  named language := by
    by_cases own : language = languages call
    · subst own
      exact reaches.passage.named (sound.named _)
    · rw [reaches.cells language own]
      exact sound.named language
  distinct := reaches.passage.distinct (sound.fits call) (sound.known _) sound.distinct

/-- What any move leads to agrees if all did before. -/
theorem Traffic.Sound.step {traffic : Traffic Tree Query} {languages : Nat → LanguageId}
    (sound : traffic.Sound languages) (move : Move Tree Query)
    : (traffic.step languages move).Sound languages := by
  cases move with
  | proceed call mishap => exact sound.reaches (proceed_reaches sound.mapped call mishap)
  | disturb folder =>
      exact ⟨sound.mapped.with_registry _, sound.fits, sound.filled, sound.known, sound.named,
        sound.distinct⟩

namespace Schedule

/-- Calls, cells and registry agree at all times, by induction over time. -/
theorem sound (schedule : Schedule Tree Query) (time : Nat)
    : (schedule.traffic time).Sound schedule.languages := by
  induction time with
  | zero =>
      refine ⟨⟨nofun, nofun, fun _ _ => rfl, nofun⟩, fun _ => trivial, nofun, fun language => ?_,
        nofun, ?_⟩
      · rw [traffic, find?, schedule.unloaded]
        rfl
      · rw [traffic, schedule.unloaded]
        exact List.nodup_nil
  | succ time ih => exact ih.step (schedule.moves time)

/-- What comes of a call when it is its turn. -/
theorem reaches {schedule : Schedule Tree Query} {time call : Nat} {mishap : Mishap Tree Query}
    (proceeds : schedule.moves time = .proceed call mishap)
    : (schedule.traffic time).Reaches schedule.languages call (schedule.traffic (time + 1)) := by
  rw [traffic, proceeds]
  exact Traffic.proceed_reaches (schedule.sound time).mapped call mishap

/-- A call either takes a step or stays where it is. -/
theorem proceeds_or_stays (schedule : Schedule Tree Query) (time call : Nat)
    : (∃ mishap, schedule.moves time = .proceed call mishap)
      ∨ schedule.stage (time + 1) call = schedule.stage time call := by
  cases moved : schedule.moves time with
  | proceed other mishap =>
      by_cases same : call = other
      · subst same
        exact .inl ⟨mishap, rfl⟩
      · exact .inr ((reaches moved).stages call same)
  | disturb folder =>
      right
      rw [stage, traffic, moved]
      rfl

/-- A cell stays as it is unless a call of its language takes a step. -/
theorem proceeds_or_keeps (schedule : Schedule Tree Query) (time : Nat) (language : LanguageId)
    : (∃ call mishap,
        schedule.languages call = language ∧ schedule.moves time = .proceed call mishap)
      ∨ schedule.cell (time + 1) language = schedule.cell time language := by
  cases moved : schedule.moves time with
  | proceed call mishap =>
      by_cases own : language = schedule.languages call
      · exact .inl ⟨call, mishap, own.symm, rfl⟩
      · exact .inr ((reaches moved).cells language own)
  | disturb folder =>
      right
      rw [cell, traffic, moved]
      rfl

/-- Who loads a language fills its cell. -/
theorem Loads.cell_eq {schedule : Schedule Tree Query} {time call : Nat}
    (loads : schedule.Loads time call)
    : schedule.cell time (schedule.languages call) = ⟨some call, none⟩ := by
  obtain ⟨number, phase, loading⟩ := loads
  have fits := (schedule.sound time).fits call
  rwa [show (schedule.traffic time).stages call = .loading number phase from loading] at fits

/-- One call at most loads a language. -/
theorem Loads.unique {schedule : Schedule Tree Query} {time call other : Nat}
    (loads : schedule.Loads time call) (again : schedule.Loads time other)
    (same : schedule.languages call = schedule.languages other)
    : call = other := by
  have filled := loads.cell_eq
  rw [same] at filled
  cases filled.symm.trans again.cell_eq
  rfl

/-- A call begins to load at an empty cell. -/
theorem Begins.cell_eq {schedule : Schedule Tree Query} {time call : Nat}
    (begins : schedule.Begins time call)
    : schedule.cell time (schedule.languages call) = {} := by
  rcases schedule.proceeds_or_stays time call with ⟨mishap, proceeds⟩ | stays
  · exact (reaches proceeds).passage.empty_of_begun begins.before begins.loads
  · have loads := begins.loads
    rw [Loads, stays] at loads
    exact (begins.before loads).elim

/-- A load ends by a step of its call. -/
theorem Ends.proceeds {schedule : Schedule Tree Query} {time call : Nat}
    {answer : Except Failure (LoadedGrammar Tree Query)} (ends : schedule.Ends time call answer)
    : ∃ mishap, schedule.moves time = .proceed call mishap := by
  rcases schedule.proceeds_or_stays time call with proceeds | stays
  · exact proceeds
  · obtain ⟨_, _, loading⟩ := ends.loads
    cases (loading.symm.trans stays.symm).trans ends.returned

/-- What a call returned is in the cell of its language. -/
theorem grammar_of_returned {schedule : Schedule Tree Query} {time call : Nat}
    {grammar : LoadedGrammar Tree Query}
    (returned : schedule.stage time call = .returned (.ok grammar))
    : (schedule.cell time (schedule.languages call)).grammar = some grammar := by
  have fits := (schedule.sound time).fits call
  rwa [show (schedule.traffic time).stages call = .returned (.ok grammar) from returned] at fits

/-- A cell that has a grammar keeps it. -/
theorem grammar_of_held {schedule : Schedule Tree Query} {time later : Nat}
    {language : LanguageId} {grammar : LoadedGrammar Tree Query}
    (held : (schedule.cell time language).grammar = some grammar) (after : time ≤ later)
    : (schedule.cell later language).grammar = some grammar := by
  induction later, after using Nat.le_induction with
  | base => exact held
  | succ later _ ih =>
      rcases schedule.proceeds_or_keeps later language with ⟨call, mishap, rfl, proceeds⟩ | keeps
      · exact (reaches proceeds).passage.grammar_of_held ((schedule.sound later).fits call) ih
      · rw [keeps, ih]

/-- What is in a cell came of a load that ended before, by induction over time. -/
theorem ended_of_held {schedule : Schedule Tree Query} {time : Nat} {language : LanguageId}
    {grammar : LoadedGrammar Tree Query}
    (held : (schedule.cell time language).grammar = some grammar)
    : ∃ earlier call,
        earlier < time
        ∧ schedule.languages call = language
        ∧ schedule.Ends earlier call (.ok grammar) := by
  induction time with
  | zero => cases held
  | succ time ih =>
      cases before : (schedule.cell time language).grammar with
      | some another =>
          cases (grammar_of_held before (Nat.le_succ time)).symm.trans held
          obtain ⟨earlier, call, order, own, ends⟩ := ih before
          exact ⟨earlier, call, Nat.lt_succ_of_lt order, own, ends⟩
      | none =>
          rcases schedule.proceeds_or_keeps time language with ⟨call, mishap, rfl, proceeds⟩ | keeps
          · obtain ⟨loads, returned⟩ := (reaches proceeds).passage.grammar_of_empty before held
            exact ⟨time, call, Nat.lt_succ_self time, rfl, loads, returned⟩
          · rw [keeps, before] at held
            cases held

/-- No load of a language goes on after one that succeeds. -/
theorem Ends.not_loads {schedule : Schedule Tree Query} {time later call other : Nat}
    {grammar : LoadedGrammar Tree Query} (ends : schedule.Ends time call (.ok grammar))
    (after : time < later) (same : schedule.languages other = schedule.languages call)
    : ¬ schedule.Loads later other := by
  intro loads
  have held := grammar_of_held (grammar_of_returned ends.returned) after
  rw [← same, loads.cell_eq] at held
  cases held

/-- One load of a language at most succeeds. -/
theorem Ends.unique {schedule : Schedule Tree Query} {time again call other : Nat}
    {grammar another : LoadedGrammar Tree Query} (ends : schedule.Ends time call (.ok grammar))
    (repeated : schedule.Ends again other (.ok another))
    (same : schedule.languages other = schedule.languages call)
    : again = time ∧ other = call := by
  rcases Nat.lt_trichotomy time again with before | rfl | after
  · exact (ends.not_loads before same repeated.loads).elim
  · exact ⟨rfl, repeated.loads.unique ends.loads same⟩
  · exact (repeated.not_loads after same.symm ends.loads).elim

/-- A load that succeeds is the last one of its language to begin. -/
theorem Ends.not_begins {schedule : Schedule Tree Query} {time later call other : Nat}
    {grammar : LoadedGrammar Tree Query} (ends : schedule.Ends time call (.ok grammar))
    (after : time ≤ later) (same : schedule.languages other = schedule.languages call)
    : ¬ schedule.Begins later other := by
  intro begins
  have empty := begins.cell_eq
  rw [same] at empty
  rcases Nat.eq_or_lt_of_le after with rfl | order
  · cases empty.symm.trans ends.loads.cell_eq
  · have held := grammar_of_held (grammar_of_returned ends.returned) order
    rw [empty] at held
    cases held

/-- A grammar that a call returned came of the only load of its language that succeeds. -/
theorem loadedOnce_of_returned {schedule : Schedule Tree Query} {time call : Nat}
    {grammar : LoadedGrammar Tree Query}
    (returned : schedule.stage time call = .returned (.ok grammar))
    : schedule.LoadedOnce (schedule.languages call) grammar := by
  obtain ⟨earlier, loader, _, own, ends⟩ := ended_of_held (grammar_of_returned returned)
  exact ⟨earlier, loader, own, ends, fun again other another same repeated =>
    ends.unique repeated (same.trans own.symm)⟩

/-- A load that fails leaves the cell empty, and so it stays until a call begins to load. -/
theorem Ends.empty_of_error {schedule : Schedule Tree Query} {time later call : Nat}
    {failure : Failure} (ends : schedule.Ends time call (.error failure)) (after : time < later)
    (idle : ∀ between other,
      time < between → between < later → schedule.languages other = schedule.languages call
      → ¬ schedule.Begins between other)
    : schedule.cell later (schedule.languages call) = {} := by
  induction later, after using Nat.le_induction with
  | base =>
      obtain ⟨mishap, proceeds⟩ := ends.proceeds
      have passage := (reaches proceeds).passage
      rw [show (schedule.traffic (time + 1)).stages call = _ from ends.returned] at passage
      exact (passage.empty_of_failed ends.loads).1
  | succ later after ih =>
      have empty := ih fun between other lower upper =>
        idle between other lower (Nat.lt_succ_of_lt upper)
      rcases schedule.proceeds_or_keeps later (schedule.languages call) with
        ⟨other, mishap, own, proceeds⟩ | keeps
      · rw [← own] at empty ⊢
        have fits := (schedule.sound later).fits other
        rcases (reaches proceeds).passage.empty_or_begun fits empty with still | ⟨before, loads⟩
        · exact still
        · exact (idle later other after (Nat.lt_succ_self later) own ⟨before, loads⟩).elim
      · rw [keeps, empty]

/-- The registry has loaded the languages of which a load has succeeded. -/
theorem isLoaded_iff (schedule : Schedule Tree Query) (time : Nat) (language : LanguageId)
    : (schedule.registryAt time).isLoaded language = true ↔ schedule.HasLoaded time language := by
  rw [isLoaded, registryAt, ← (schedule.sound time).known language, Option.isSome_iff_exists]
  constructor
  · rintro ⟨grammar, held⟩
    obtain ⟨earlier, call, order, own, ends⟩ := ended_of_held held
    exact ⟨earlier, call, grammar, order, own, ends⟩
  · rintro ⟨earlier, call, grammar, order, rfl, ends⟩
    exact ⟨grammar, grammar_of_held (grammar_of_returned ends.returned) order⟩

end Schedule

/-- Whatever the order in which the steps of calls come, and whatever goes wrong in them: one call at
most loads a language; after a load that succeeds none of its language begins, and the calls for the
language that succeed return its grammar, which has that language; a load that fails keeps nothing,
and the next call to look loads again; calls for one language keep nothing of others; and the registry
counts the languages of which a load has succeeded.
-/
theorem Schedule.loads_once (schedule : Schedule Tree Query)
    : (∀ time call other,
        schedule.Loads time call
        → schedule.Loads time other
        → schedule.languages call = schedule.languages other
        → call = other)
      ∧ (∀ time call grammar,
          schedule.Ends time call (.ok grammar)
          → grammar.language = schedule.languages call
            ∧ (∀ later other,
                time ≤ later
                → schedule.languages other = schedule.languages call
                → ¬ schedule.Begins later other)
            ∧ ∀ later other another,
                schedule.languages other = schedule.languages call
                → schedule.stage later other = .returned (.ok another)
                → another = grammar)
      ∧ (∀ time call grammar,
          schedule.stage time call = .returned (.ok grammar)
          → grammar.language = schedule.languages call
            ∧ schedule.LoadedOnce (schedule.languages call) grammar)
      ∧ (∀ time call failure,
          schedule.Ends time call (.error failure)
          → (schedule.registryAt (time + 1)).loaded = (schedule.registryAt time).loaded
            ∧ ∀ later,
                time < later
                → (∀ between other,
                    time < between
                    → between < later
                    → schedule.languages other = schedule.languages call
                    → ¬ schedule.Begins between other)
                → (schedule.registryAt later).isLoaded (schedule.languages call) = false
                  ∧ ∀ other number mishap,
                      schedule.languages other = schedule.languages call
                      → schedule.stage later other = .waiting number
                      → schedule.moves later = .proceed other mishap
                      → schedule.Begins later other)
      ∧ (∀ time call mishap language,
          schedule.moves time = .proceed call mishap
          → language ≠ schedule.languages call
          → (schedule.registryAt (time + 1)).find? language
            = (schedule.registryAt time).find? language)
      ∧ (∀ time language,
          (schedule.cell time language).grammar = (schedule.registryAt time).find? language)
      ∧ (∀ time language,
          (schedule.registryAt time).isLoaded language = true ↔ schedule.HasLoaded time language)
      ∧ ∀ time, ∃ languages : List LanguageId,
          languages.Nodup
          ∧ (∀ language, language ∈ languages ↔ schedule.HasLoaded time language)
          ∧ (schedule.registryAt time).loadedCount = languages.length := by
  refine ⟨fun _ _ _ loads again same => loads.unique again same, ?_, ?_, ?_, ?_,
    fun time => (schedule.sound time).known, schedule.isLoaded_iff, ?_⟩
  · intro time call grammar ends
    have held := grammar_of_returned ends.returned
    refine ⟨(schedule.sound (time + 1)).named _ _ held,
      fun later other after same => ends.not_begins after same, ?_⟩
    intro later other another same returned
    have first := grammar_of_held held (Nat.le_max_left (time + 1) later)
    have second := grammar_of_held (grammar_of_returned returned)
      (Nat.le_max_right (time + 1) later)
    rw [same] at second
    exact Option.some.inj (second.symm.trans first)
  · intro time call grammar returned
    exact ⟨(schedule.sound time).named _ _ (grammar_of_returned returned),
      loadedOnce_of_returned returned⟩
  · intro time call failure ends
    refine ⟨?_, fun later after idle => ?_⟩
    · obtain ⟨mishap, proceeds⟩ := ends.proceeds
      have passage := (reaches proceeds).passage
      rw [show (schedule.traffic (time + 1)).stages call = _ from ends.returned] at passage
      exact (passage.empty_of_failed ends.loads).2
    · have empty := ends.empty_of_error after idle
      refine ⟨?_, fun other number mishap same waiting proceeds => ⟨?_, ?_⟩⟩
      · rw [isLoaded, registryAt, ← (schedule.sound later).known]
        exact congrArg (fun cell => cell.grammar.isSome) empty
      · rintro ⟨_, _, loading⟩
        cases waiting.symm.trans loading
      · have passage := (reaches proceeds).passage
        rw [show (schedule.traffic later).stages other = _ from waiting, same] at passage
        exact passage.begun_of_waiting empty
  · intro time call mishap language proceeds different
    exact (reaches proceeds).passage.find?_of_ne different
  · intro time
    refine ⟨(schedule.registryAt time).loaded.map Prod.fst, (schedule.sound time).distinct,
      fun language => ?_, (List.length_map _).symm⟩
    rw [← schedule.isLoaded_iff, isLoaded, ← not_iff_not, ← find?_eq_none_iff,
      Bool.not_eq_true, Option.isSome_eq_false_iff, Option.isNone_iff_eq_none]

/-- The library of a language that is not built in. -/
def commentLibrary : Library String Unit := .image [("tree_sitter_go", ⟨15, CommentLines.engine⟩)]

/-- Two calls ask for a language whose library cannot be fetched, and a third for one that is built in.
Somebody else brings the library after the first call has failed.
-/
def retrying : Schedule String Unit where
  registry := {
    builtins resource :=
      if resource = "tree-sitter-javascript" then some ⟨15, CommentLines.engine⟩ else none
    path := "grammars"
    source := .web }
  unloaded := rfl
  languages call := if call = 2 then ⟨"javascript"⟩ else ⟨"go"⟩
  moves time :=
    if time = 9 then .disturb (.holding [("tree-sitter-go.so", .file commentLibrary)])
    else .proceed ([0, 1, 0, 0, 2, 1, 2, 0, 1, 0, 2].getD time 1) {}

/-- The call that waited loads again and succeeds.  Each language counts once. -/
theorem loads_once_retrying
    : ∃ failure grammar,
        retrying.Ends 7 0 (.error failure)
        ∧ (retrying.registryAt 8).isLoaded ⟨"go"⟩ = false
        ∧ retrying.Begins 8 1
        ∧ retrying.Ends 12 1 (.ok grammar)
        ∧ retrying.LoadedOnce ⟨"go"⟩ grammar
        ∧ (retrying.registryAt 13).loadedCount = 2 := by
  have first : ∃ failure, retrying.Ends 7 0 (.error failure) := ⟨_, ⟨_, _, rfl⟩, rfl⟩
  have second : ∃ grammar, retrying.Ends 12 1 (.ok grammar) := ⟨_, ⟨_, _, rfl⟩, rfl⟩
  obtain ⟨failure, fails⟩ := first
  obtain ⟨grammar, succeeds⟩ := second
  obtain ⟨_, _, returned, failed, _⟩ := retrying.loads_once
  obtain ⟨_, retried⟩ := failed 7 0 failure fails
  obtain ⟨unloaded, begins⟩ := retried 8 (by decide) fun between _ lower upper => by omega
  exact ⟨failure, grammar, fails, unloaded, begins 1 0 _ rfl rfl rfl, succeeds,
    (returned 13 1 grammar succeeds.returned).2, rfl⟩

end SyntaxExplorer.GrammarRegistry
