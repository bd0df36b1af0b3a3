import SyntaxExplorer.Proofs.Registry.SingleFlight
import SyntaxExplorer.Proofs.Store.Files

/-! The folder of libraries holds whole libraries alone, and none is fetched twice.  A library is absent
from the folder for as long as a load is about to bring it, and it gets its name only when it is
whole: so no failure on the way leaves a part of it under that name.
-/

namespace SyntaxExplorer.GrammarRegistry

variable {Tree Query : Type}

-----------------------------------------------------------------------------------------
-- The files of a grammar
-----------------------------------------------------------------------------------------

/-- Grammars have libraries of different names. -/
theorem libraryFile_ne {left right : String} (different : left ≠ right)
    : libraryFile left ≠ libraryFile right :=
  fun same => different ((String.append_left_inj ".so").mp same)

/-- Grammars have part files of different names. -/
theorem partFile_ne {left right : String} (different : left ≠ right)
    : partFile left ≠ partFile right :=
  fun same => different ((String.append_left_inj ".part").mp same)

/-- No library has the name of a part file. -/
theorem libraryFile_ne_partFile (left right : String) : libraryFile left ≠ partFile right := by
  intro same
  have last := congrArg (fun name => name.toList.getLast?) same
  simp [libraryFile, partFile] at last

/-- What stands under the name of the library of a language. -/
def libraryOf (registry : GrammarRegistry Tree Query) (language : LanguageId)
    : Option (FolderEntry (Library Tree Query)) :=
  registry.folder.find? (libraryFile language.resource)

/-- What stands under the name of the part file of a language. -/
def partOf (registry : GrammarRegistry Tree Query) (language : LanguageId)
    : Option (FolderEntry (Library Tree Query)) :=
  registry.folder.find? (partFile language.resource)

/-- Where a call gets with a step of its load. -/
def Turn.stage (number : Nat) : Turn Tree Query → Stage Tree Query
  | .onward phase => .loading number phase
  | .finished answer => .returned answer

namespace Progress

variable {registry next : GrammarRegistry Tree Query} {language other : LanguageId}
variable {phase : Phase Tree Query} {turn : Turn Tree Query}

/-- A load leaves alone all files but those of its grammar. -/
theorem find?_of_ne (came : Progress registry language phase turn next) {name : String}
    (part : name ≠ partFile language.resource) (library : name ≠ libraryFile language.resource)
    : next.folder.find? name = registry.folder.find? name := by
  cases came with
  | builtin | present | absent | fetched | unfetched | opened | failed => rfl
  | made _ _ made => exact Folder.find?_create made name
  | written _ written | scrapped _ _ _ written => exact Folder.find?_write_of_ne part written
  | renamed _ _ renamed => exact Folder.find?_rename_of_ne renamed part library

/-- A load leaves alone the files of other grammars. -/
theorem files_of_ne (came : Progress registry language phase turn next)
    (different : other.resource ≠ language.resource)
    : next.libraryOf other = registry.libraryOf other
      ∧ next.partOf other = registry.partOf other :=
  ⟨came.find?_of_ne (libraryFile_ne_partFile _ _) (libraryFile_ne different),
    came.find?_of_ne (partFile_ne different) (libraryFile_ne_partFile _ _).symm⟩

/-- The library of a load is left alone until the part file is renamed. -/
theorem libraryOf_eq (came : Progress registry language phase turn next)
    : next.libraryOf language = registry.libraryOf language
      ∨ ∃ attempt library,
          phase = .naming attempt library
          ∧ turn = .onward .opening
          ∧ next.libraryOf language = registry.partOf language := by
  cases came with
  | builtin | present | absent | fetched | unfetched | opened | failed => exact .inl rfl
  | made _ _ made => exact .inl (Folder.find?_create made _)
  | written _ written | scrapped _ _ _ written =>
      exact .inl (Folder.find?_write_of_ne (libraryFile_ne_partFile _ _) written)
  | renamed attempt library renamed =>
      exact .inr ⟨attempt, library, rfl, rfl, Folder.find?_rename_self renamed⟩

end Progress

namespace Traffic.Passage

variable {registry next : GrammarRegistry Tree Query} {language : LanguageId} {call number : Nat}
variable {phase : Phase Tree Query} {stage reached : Stage Tree Query}
variable {cell content : Cell Tree Query}

/-- A call that does not load leaves the registry alone. -/
theorem registry_eq (passage : Passage registry language call stage cell reached content next)
    (before : ¬ stage.Loads)
    : next = registry := by
  cases passage with
  | entered | found | waited | began | rested => rfl
  | progressed number | succeeded number | failed number => exact (before ⟨number, _, rfl⟩).elim

/-- A call that loads gets on with its load.  Only the grammar may come on top. -/
theorem progress
    (passage : Passage registry language call (.loading number phase) cell reached content next)
    : ∃ turn,
        reached = turn.stage number
        ∧ Progress registry language phase turn { next with loaded := registry.loaded } := by
  have same {turn reached} (came : Progress registry language phase turn reached)
      : Progress registry language phase turn { reached with loaded := registry.loaded } := by
    rw [← came.loaded_eq]
    exact came
  cases passage with
  | progressed _ _ came => exact ⟨.onward _, rfl, same came⟩
  | succeeded _ _ came => exact ⟨.finished (.ok _), rfl, (same came :)⟩
  | failed _ _ came => exact ⟨.finished (.error _), rfl, same came⟩

/-- A call that begins to load looks for its library. -/
theorem looking_of_begun
    (passage : Passage registry language call stage cell (.loading number phase) content next)
    (before : ¬ stage.Loads)
    : phase = .looking := by
  cases passage with
  | began => rfl
  | progressed number => exact (before ⟨number, _, rfl⟩).elim

/-- A call does not come to another answer. -/
theorem eq_of_returned {answer : Except Failure (LoadedGrammar Tree Query)}
    (passage : Passage registry language call (.returned answer) cell reached content next)
    : reached = .returned answer := by
  cases passage with
  | rested => rfl

end Traffic.Passage

-----------------------------------------------------------------------------------------
-- What happens to a library
-----------------------------------------------------------------------------------------

/-- A load is about to bring its library. -/
def Phase.Downloads : Phase Tree Query → Prop
  | .fetching | .making _ _ | .writing _ _ | .naming _ _ => True
  | .looking | .opening => False

/-- A load no longer looks for its library and has not to fetch it any more. -/
def Phase.PastFetch : Phase Tree Query → Prop
  | .looking | .fetching => False
  | .making _ _ | .writing _ _ | .naming _ _ | .opening => True

/-- What stands under the name of a library that a load is about to bring: nothing, and at last the
whole library in the part file.
-/
def Phase.Suits (registry : GrammarRegistry Tree Query) (language : LanguageId)
    (Fetched : Library Tree Query → Prop) : Phase Tree Query → Prop
  | .looking | .opening => True
  | .fetching => registry.libraryOf language = none
  | .making _ library | .writing _ library =>
      registry.libraryOf language = none ∧ Fetched library
  | .naming _ library =>
      registry.libraryOf language = none
      ∧ Fetched library
      ∧ registry.partOf language = some (.file library)

/-- Nothing stands under the name of a library that a load is about to bring. -/
theorem Phase.Suits.absent {registry : GrammarRegistry Tree Query} {language : LanguageId}
    {Fetched : Library Tree Query → Prop} {phase : Phase Tree Query}
    (suits : phase.Suits registry language Fetched) (downloads : phase.Downloads)
    : registry.libraryOf language = none := by
  cases phase with
  | looking | opening => exact downloads.elim
  | fetching => exact suits
  | making | writing | naming => exact suits.1

/-- What suited a load still suits it if its files are left alone. -/
theorem Phase.Suits.of_files {registry next : GrammarRegistry Tree Query} {language : LanguageId}
    {Fetched Later : Library Tree Query → Prop} {phase : Phase Tree Query}
    (suits : phase.Suits registry language Fetched)
    (library : next.libraryOf language = registry.libraryOf language)
    (part : next.partOf language = registry.partOf language)
    (later : ∀ library, Fetched library → Later library)
    : phase.Suits next language Later := by
  cases phase with
  | looking | opening => trivial
  | fetching => exact library.trans suits
  | making _ fetched | writing _ fetched => exact ⟨library.trans suits.1, later fetched suits.2⟩
  | naming _ fetched =>
      exact ⟨library.trans suits.1, later fetched suits.2.1, part.trans suits.2.2⟩

/-- What suited a load before a step suits it after the step. -/
theorem Progress.suits {registry reached : GrammarRegistry Tree Query} {language : LanguageId}
    {phase next : Phase Tree Query} {Fetched Later : Library Tree Query → Prop}
    (came : Progress registry language phase (.onward next) reached)
    (suits : phase.Suits registry language Fetched)
    (later : ∀ library, Fetched library → Later library)
    (fetch : ∀ library,
      phase = .fetching → (registry.fetch language.resource).1 = .ok library → Later library)
    : next.Suits reached language Later := by
  cases came with
  | present | renamed => trivial
  | absent _ lacked =>
      rw [holds, Folder.contains, Option.isSome_eq_false_iff, Option.isNone_iff_eq_none] at lacked
      exact lacked
  | fetched answer => exact ⟨suits, fetch _ rfl answer⟩
  | made _ library made =>
      exact ⟨(Folder.find?_create made _).trans suits.1, later library suits.2⟩
  | @written _ library _ written =>
      exact ⟨(Folder.find?_write_of_ne (libraryFile_ne_partFile _ _) written).trans suits.1,
        later library suits.2, Folder.find?_write_self written⟩

/-- A load comes to bring its library by looking for it. -/
theorem Progress.downloads {registry reached : GrammarRegistry Tree Query}
    {language : LanguageId} {phase next : Phase Tree Query}
    (came : Progress registry language phase (.onward next) reached) (downloads : next.Downloads)
    : phase = .looking ∨ phase.Downloads := by
  cases came with
  | present | renamed => exact downloads.elim
  | absent => exact .inl rfl
  | fetched | made | written => exact .inr trivial

/-- A load that is done with naming its library has given it the content of the part file. -/
theorem Progress.of_naming {registry reached : GrammarRegistry Tree Query}
    {language : LanguageId} {attempt : Nat} {library : Library Tree Query}
    (came : Progress registry language (.naming attempt library) (.onward .opening) reached)
    : reached.libraryOf language = registry.partOf language := by
  cases came with
  | renamed _ _ renamed => exact Folder.find?_rename_self renamed

/-- A load that has looked for its library does not come to fetch it again. -/
theorem Progress.pastFetch {registry reached : GrammarRegistry Tree Query}
    {language : LanguageId} {phase next : Phase Tree Query}
    (came : Progress registry language phase (.onward next) reached) (looked : phase ≠ .looking)
    : next.PastFetch := by
  cases came with
  | present | fetched | made | written | renamed => trivial
  | absent => exact (looked rfl).elim

/-- A load that looks for a library that is not built in goes on to open or to fetch it. -/
theorem Progress.of_looking {registry reached : GrammarRegistry Tree Query}
    {language : LanguageId} {turn : Turn Tree Query}
    (came : Progress registry language .looking turn reached)
    (foreign : registry.builtins language.resource = none)
    : (registry.libraryOf language ≠ none ∧ turn = .onward .opening)
      ∨ (registry.libraryOf language = none ∧ turn = .onward .fetching) := by
  cases came with
  | builtin known => cases foreign.symm.trans known
  | present _ held =>
      rw [holds, Folder.contains, Option.isSome_iff_ne_none] at held
      exact .inl ⟨held, rfl⟩
  | absent _ lacked =>
      rw [holds, Folder.contains, Option.isSome_eq_false_iff, Option.isNone_iff_eq_none] at lacked
      exact .inr ⟨lacked, rfl⟩
  | failed _ underWay => exact (underWay rfl).elim

namespace Schedule

/-- What stands under the name of the library of a language at a time. -/
def library (schedule : Schedule Tree Query) (time : Nat) (language : LanguageId)
    : Option (FolderEntry (Library Tree Query)) :=
  (schedule.registryAt time).libraryOf language

/-- A language is not built in, and its library is touched only by the calls for it: nobody else
changes the folder, and no other language has the same library.
-/
structure Secludes (schedule : Schedule Tree Query) (language : LanguageId) : Prop where
  foreign : schedule.registry.builtins language.resource = none
  undisturbed : ∀ time folder, schedule.moves time ≠ .disturb folder
  own
    : ∀ call,
        (schedule.languages call).resource = language.resource
        → schedule.languages call = language

/-- At a time a call looks for its library. -/
structure Looks (schedule : Schedule Tree Query) (time call : Nat) : Prop where
  looking : ∃ number, schedule.stage time call = .loading number .looking
  proceeds : ∃ mishap, schedule.moves time = .proceed call mishap

/-- At a time a call requests its library and gets an answer. -/
structure Fetches (schedule : Schedule Tree Query) (time call : Nat)
    (answer : Except Failure (Library Tree Query))
    : Prop where
  fetching : ∃ number, schedule.stage time call = .loading number .fetching
  proceeds : ∃ mishap, schedule.moves time = .proceed call mishap
  answered
    : ((schedule.registryAt time).fetch (schedule.languages call).resource).1 = answer

/-- At a time a call gives a library its name. -/
def Names (schedule : Schedule Tree Query) (time call : Nat) : Prop :=
  ∃ number attempt library,
    schedule.stage time call = .loading number (.naming attempt library)
    ∧ schedule.stage (time + 1) call = .loading number .opening

/-- A call fetches a library and later gives it its name. -/
structure Supplies (schedule : Schedule Tree Query) (time later call : Nat) : Prop where
  fetches : ∃ answer, schedule.Fetches time call answer
  names : schedule.Names later call
  order : time < later

/-- At a time a call fails to bring its library: it cannot be fetched, or the folder cannot be made, or
the library cannot be written or named.
-/
def Misses (schedule : Schedule Tree Query) (time call : Nat) : Prop :=
  ∃ number phase failure,
    schedule.stage time call = .loading number phase
    ∧ phase.Downloads
    ∧ schedule.stage (time + 1) call = .returned (.error failure)

/-- Before a time a call fetched a library. -/
def Fetched (schedule : Schedule Tree Query) (time call : Nat) (library : Library Tree Query)
    : Prop :=
  ∃ earlier, earlier < time ∧ schedule.Fetches earlier call (.ok library)

variable {schedule : Schedule Tree Query} {language : LanguageId}

/-- A call that loads gets on with its load when it is its turn. -/
theorem progress {time call number : Nat} {mishap : Mishap Tree Query}
    {phase : Phase Tree Query} (loading : schedule.stage time call = .loading number phase)
    (proceeds : schedule.moves time = .proceed call mishap)
    : ∃ turn,
        schedule.stage (time + 1) call = turn.stage number
        ∧ Progress (schedule.registryAt time) (schedule.languages call) phase turn
            { schedule.registryAt (time + 1) with loaded := (schedule.registryAt time).loaded } := by
  have passage := (reaches proceeds).passage
  rw [show (schedule.traffic time).stages call = _ from loading] at passage
  exact passage.progress

/-- A call that loads gets on with its load or stays where it is. -/
theorem progresses_or_stays {time call number : Nat} {phase : Phase Tree Query}
    (loading : schedule.stage time call = .loading number phase)
    : (∃ turn,
        schedule.stage (time + 1) call = turn.stage number
        ∧ Progress (schedule.registryAt time) (schedule.languages call) phase turn
            { schedule.registryAt (time + 1) with loaded := (schedule.registryAt time).loaded })
      ∨ schedule.stage (time + 1) call = .loading number phase := by
  rcases schedule.proceeds_or_stays time call with ⟨mishap, proceeds⟩ | stays
  · exact .inl (progress loading proceeds)
  · exact .inr (stays.trans loading)

/-- A call that does not load leaves the registry alone when it is its turn. -/
theorem registryAt_eq {time call : Nat} {mishap : Mishap Tree Query}
    (proceeds : schedule.moves time = .proceed call mishap)
    (before : ¬ schedule.Loads time call)
    : schedule.registryAt (time + 1) = schedule.registryAt time :=
  (reaches proceeds).passage.registry_eq before

/-- No grammar comes to be built in, by induction over time. -/
theorem builtins_eq (schedule : Schedule Tree Query) (time : Nat)
    : (schedule.registryAt time).builtins = schedule.registry.builtins := by
  induction time with
  | zero => rfl
  | succ time ih =>
      cases moved : schedule.moves time with
      | disturb folder =>
          rw [← ih, registryAt, traffic, moved]
          rfl
      | proceed call mishap =>
          by_cases loads : schedule.Loads time call
          · obtain ⟨number, phase, loading⟩ := loads
            obtain ⟨turn, _, came⟩ := progress loading moved
            exact came.builtins_eq.trans ih
          · rw [registryAt_eq moved loads, ih]

/-- The files of a language stay as they are unless a load of the language takes a step. -/
theorem loads_or_keeps (secludes : schedule.Secludes language) (time : Nat)
    : (∃ call mishap number phase,
        schedule.languages call = language
        ∧ schedule.moves time = .proceed call mishap
        ∧ schedule.stage time call = .loading number phase)
      ∨ (schedule.library (time + 1) language = schedule.library time language
        ∧ (schedule.registryAt (time + 1)).partOf language
          = (schedule.registryAt time).partOf language) := by
  cases moved : schedule.moves time with
  | disturb folder => exact (secludes.undisturbed time folder moved).elim
  | proceed call mishap =>
      by_cases loads : schedule.Loads time call
      · obtain ⟨number, phase, loading⟩ := loads
        by_cases own : schedule.languages call = language
        · exact .inl ⟨call, mishap, number, phase, own, rfl, loading⟩
        · obtain ⟨turn, _, came⟩ := progress loading moved
          exact .inr (came.files_of_ne fun same => own (secludes.own call same.symm))
      · rw [library, registryAt_eq moved loads]
        exact .inr ⟨rfl, rfl⟩

/-- What was fetched stays so. -/
theorem Fetched.mono {time later call : Nat} {library : Library Tree Query}
    (fetched : schedule.Fetched time call library) (after : time ≤ later)
    : schedule.Fetched later call library := by
  obtain ⟨earlier, before, fetches⟩ := fetched
  exact ⟨earlier, Nat.lt_of_lt_of_le before after, fetches⟩

/-- A call that comes to load looks for its library first. -/
theorem looking_of_begun {time call number : Nat} {phase : Phase Tree Query}
    (before : ¬ schedule.Loads time call)
    (loading : schedule.stage (time + 1) call = .loading number phase)
    : phase = .looking := by
  rcases schedule.proceeds_or_stays time call with ⟨mishap, proceeds⟩ | stays
  · have passage := (reaches proceeds).passage
    rw [show (schedule.traffic (time + 1)).stages call = _ from loading] at passage
    exact passage.looking_of_begun before
  · exact (before ⟨number, phase, stays.symm.trans loading⟩).elim

/-- The files of a language stay as they are while the call that loads it waits. -/
theorem keeps_of_waiting (secludes : schedule.Secludes language) {time call : Nat}
    (own : schedule.languages call = language) (loads : schedule.Loads time call)
    (waits : ¬ ∃ mishap, schedule.moves time = .proceed call mishap)
    : schedule.library (time + 1) language = schedule.library time language
      ∧ (schedule.registryAt (time + 1)).partOf language
        = (schedule.registryAt time).partOf language := by
  rcases schedule.loads_or_keeps secludes time with
    ⟨other, mishap, number, phase, same, proceeds, loading⟩ | keeps
  · have another : schedule.Loads time other := ⟨number, phase, loading⟩
    cases another.unique loads (same.trans own.symm)
    exact (waits ⟨mishap, proceeds⟩).elim
  · exact keeps

/-- What stands in the folder suits each load of a language, by induction over time. -/
theorem suits (secludes : schedule.Secludes language) {time call number : Nat}
    {phase : Phase Tree Query} (own : schedule.languages call = language)
    (loading : schedule.stage time call = .loading number phase)
    : phase.Suits (schedule.registryAt time) language (schedule.Fetched time call) := by
  induction time generalizing number phase with
  | zero => cases loading
  | succ time ih =>
      have later (library) (fetched : schedule.Fetched time call library) :=
        fetched.mono (Nat.le_succ time)
      by_cases loads : schedule.Loads time call
      · by_cases turn : ∃ mishap, schedule.moves time = .proceed call mishap
        · obtain ⟨mishap, proceeds⟩ := turn
          obtain ⟨number, before, looked⟩ := loads
          obtain ⟨turn, reached, came⟩ := progress looked proceeds
          cases turn with
          | finished answer => cases loading.symm.trans reached
          | onward next =>
              cases loading.symm.trans reached
              rw [own] at came
              refine came.suits (ih looked) later ?_
              rintro library rfl answered
              exact ⟨time, Nat.lt_succ_self time, ⟨number, looked⟩, ⟨mishap, proceeds⟩,
                own ▸ answered⟩
        · obtain ⟨library, part⟩ := keeps_of_waiting secludes own loads turn
          rcases schedule.proceeds_or_stays time call with proceeds | stays
          · exact (turn proceeds).elim
          · exact (ih (stays.symm.trans loading)).of_files library part later
      · rw [looking_of_begun loads loading]
        trivial

/-- The library of a language is left alone in a move, or a load of the language names it. -/
theorem library_succ (secludes : schedule.Secludes language) (time : Nat)
    : schedule.library (time + 1) language = schedule.library time language
      ∨ ∃ call number attempt fetched,
          schedule.languages call = language
          ∧ schedule.stage time call = .loading number (.naming attempt fetched)
          ∧ schedule.library (time + 1) language = (schedule.registryAt time).partOf language := by
  rcases schedule.loads_or_keeps secludes time with
    ⟨call, mishap, number, phase, rfl, proceeds, loading⟩ | keeps
  · obtain ⟨turn, _, came⟩ := progress loading proceeds
    rcases came.libraryOf_eq with same | ⟨attempt, fetched, rfl, _, named⟩
    · exact .inl same
    · exact .inr ⟨call, number, attempt, fetched, rfl, loading, named⟩
  · exact .inl keeps.1

/-- What comes to stand under the name of a library is one that was fetched. -/
theorem library_of_absent (secludes : schedule.Secludes language) {time : Nat}
    (absent : schedule.library time language = none)
    : schedule.library (time + 1) language = none
      ∨ ∃ call fetched,
          schedule.languages call = language
          ∧ schedule.Fetched time call fetched
          ∧ schedule.library (time + 1) language = some (.file fetched) := by
  rcases library_succ secludes time with same | ⟨call, _, _, fetched, own, loading, named⟩
  · exact .inl (same.trans absent)
  · obtain ⟨_, got, part⟩ := suits secludes own loading
    exact .inr ⟨call, fetched, own, got, named.trans part⟩

/-- What stands under the name of a library stays. -/
theorem library_of_present (secludes : schedule.Secludes language) {time later : Nat}
    {entry : FolderEntry (Library Tree Query)}
    (present : schedule.library time language = some entry) (after : time ≤ later)
    : schedule.library later language = some entry := by
  induction later, after using Nat.le_induction with
  | base => exact present
  | succ later _ ih =>
      rcases library_succ secludes later with same | ⟨call, _, _, _, own, loading, _⟩
      · exact same.trans ih
      · have absent := (suits secludes own loading).1
        cases absent.symm.trans ih

/-- What stands under the name of a library was there at first or was fetched, by induction over time. -/
theorem library_eq (secludes : schedule.Secludes language) (time : Nat)
    : schedule.library time language = schedule.library 0 language
      ∨ schedule.library 0 language = none
        ∧ ∃ call fetched,
            schedule.languages call = language
            ∧ schedule.Fetched time call fetched
            ∧ schedule.library time language = some (.file fetched) := by
  induction time with
  | zero => exact .inl rfl
  | succ time ih =>
      cases before : schedule.library time language with
      | some entry =>
          have still := library_of_present secludes before (Nat.le_succ time)
          rcases ih with same | ⟨vacant, call, fetched, own, got, held⟩
          · exact .inl (still.trans (before.symm.trans same))
          · exact .inr ⟨vacant, call, fetched, own, got.mono (Nat.le_succ time),
              still.trans (before.symm.trans held)⟩
      | none =>
          have vacant : schedule.library 0 language = none := by
            rcases ih with same | ⟨vacant, _⟩
            · exact same.symm.trans before
            · exact vacant
          rcases library_of_absent secludes before with absent | ⟨call, fetched, own, got, held⟩
          · exact .inl (absent.trans vacant.symm)
          · exact .inr ⟨vacant, call, fetched, own, got.mono (Nat.le_succ time), held⟩

/-- A library is fetched only while it is absent. -/
theorem Fetches.absent {time call : Nat} {answer : Except Failure (Library Tree Query)}
    (fetches : schedule.Fetches time call answer) (secludes : schedule.Secludes language)
    (own : schedule.languages call = language)
    : schedule.library time language = none := by
  obtain ⟨number, loading⟩ := fetches.fetching
  exact suits secludes own loading

/-- A library that gets its name was absent, and then is there as its call fetched it. -/
theorem Names.arrives {time call : Nat} (names : schedule.Names time call)
    (secludes : schedule.Secludes language) (own : schedule.languages call = language)
    : schedule.library time language = none
      ∧ ∃ fetched,
          schedule.Fetched time call fetched
          ∧ schedule.library (time + 1) language = some (.file fetched) := by
  obtain ⟨number, attempt, fetched, loading, reached⟩ := names
  obtain ⟨absent, got, part⟩ := suits secludes own loading
  refine ⟨absent, fetched, got, ?_⟩
  rcases progresses_or_stays loading with ⟨turn, stage, came⟩ | stays
  · cases turn with
    | finished => cases reached.symm.trans stage
    | onward next =>
        cases reached.symm.trans stage
        rw [own] at came
        exact came.of_naming.trans part
  · cases reached.symm.trans stays

/-- A library gets its name once, from one call. -/
theorem Names.unique {time again call other : Nat} (names : schedule.Names time call)
    (repeated : schedule.Names again other) (secludes : schedule.Secludes language)
    (own : schedule.languages call = language) (own' : schedule.languages other = language)
    : again = time ∧ other = call := by
  have late {first second one two : Nat} (named : schedule.Names first one)
      (renamed : schedule.Names second two) (own : schedule.languages one = language)
      (own' : schedule.languages two = language)
      : ¬ first < second := by
    intro order
    obtain ⟨_, fetched, _, held⟩ := named.arrives secludes own
    cases (library_of_present secludes held order).symm.trans (renamed.arrives secludes own').1
  have same : again = time :=
    Nat.le_antisymm (Nat.not_lt.mp (late names repeated own own'))
      (Nat.not_lt.mp (late repeated names own' own))
  subst same
  obtain ⟨number, attempt, fetched, loading, _⟩ := names
  obtain ⟨number', attempt', fetched', loading', _⟩ := repeated
  have loads : schedule.Loads again call := ⟨number, _, loading⟩
  have loads' : schedule.Loads again other := ⟨number', _, loading'⟩
  exact ⟨rfl, loads'.unique loads (own'.trans own.symm)⟩

/-- What a call returned stays as it is. -/
theorem returned_succ {time call : Nat} {answer : Except Failure (LoadedGrammar Tree Query)}
    (returned : schedule.stage time call = .returned answer)
    : schedule.stage (time + 1) call = .returned answer := by
  rcases schedule.proceeds_or_stays time call with ⟨mishap, proceeds⟩ | stays
  · have passage := (reaches proceeds).passage
    rw [show (schedule.traffic time).stages call = _ from returned] at passage
    exact passage.eq_of_returned
  · exact stays.trans returned

/-- A call that has fetched does not come to fetch again, by induction over time. -/
theorem Fetches.pastFetch {time later call : Nat}
    {answer : Except Failure (Library Tree Query)} (fetches : schedule.Fetches time call answer)
    (after : time < later)
    : (∃ number phase, schedule.stage later call = .loading number phase ∧ phase.PastFetch)
      ∨ ∃ answer, schedule.stage later call = .returned answer := by
  have onward {time number : Nat} {phase : Phase Tree Query} {turn : Turn Tree Query}
      {next : GrammarRegistry Tree Query} (looked : phase ≠ .looking)
      (reached : schedule.stage (time + 1) call = turn.stage number)
      (came : Progress (schedule.registryAt time) (schedule.languages call) phase turn next)
      : (∃ number phase,
          schedule.stage (time + 1) call = .loading number phase ∧ phase.PastFetch)
        ∨ ∃ answer, schedule.stage (time + 1) call = .returned answer := by
    cases turn with
    | onward next => exact .inl ⟨number, next, reached, came.pastFetch looked⟩
    | finished answer => exact .inr ⟨answer, reached⟩
  induction later, after using Nat.le_induction with
  | base =>
      obtain ⟨⟨number, fetching⟩, ⟨mishap, proceeds⟩, _⟩ := fetches
      obtain ⟨turn, reached, came⟩ := progress fetching proceeds
      exact onward (by nofun) reached came
  | succ later _ ih =>
      rcases ih with ⟨number, phase, loading, past⟩ | ⟨answer, returned⟩
      · rcases progresses_or_stays loading with ⟨turn, reached, came⟩ | stays
        · refine onward ?_ reached came
          rintro rfl
          exact past
        · exact .inl ⟨number, phase, stays, past⟩
      · exact .inr ⟨answer, returned_succ returned⟩

/-- A call fetches once. -/
theorem Fetches.unique {time again call : Nat} {answer another : Except Failure (Library Tree Query)}
    (fetches : schedule.Fetches time call answer) (repeated : schedule.Fetches again call another)
    : again = time := by
  have late {first second : Nat} {one two : Except Failure (Library Tree Query)}
      (fetched : schedule.Fetches first call one) (refetched : schedule.Fetches second call two)
      : ¬ first < second := by
    intro order
    obtain ⟨number, fetching⟩ := refetched.fetching
    rcases fetched.pastFetch order with ⟨_, _, loading, past⟩ | ⟨_, returned⟩
    · cases fetching.symm.trans loading
      exact past
    · cases fetching.symm.trans returned
  exact Nat.le_antisymm (Nat.not_lt.mp (late fetches repeated))
    (Nat.not_lt.mp (late repeated fetches))

/-- A call that looks for its library goes on to open or to fetch it. -/
theorem Looks.leads {time call : Nat} (looks : schedule.Looks time call)
    (secludes : schedule.Secludes language) (own : schedule.languages call = language)
    : ∃ number,
        (schedule.library time language ≠ none
          ∧ schedule.stage (time + 1) call = .loading number .opening)
        ∨ (schedule.library time language = none
          ∧ schedule.stage (time + 1) call = .loading number .fetching) := by
  obtain ⟨⟨number, loading⟩, ⟨mishap, proceeds⟩⟩ := looks
  obtain ⟨turn, reached, came⟩ := progress loading proceeds
  rw [own] at came
  have foreign := secludes.foreign
  rw [← schedule.builtins_eq time] at foreign
  rcases came.of_looking foreign with ⟨held, rfl⟩ | ⟨absent, rfl⟩
  · exact ⟨number, .inl ⟨held, reached⟩⟩
  · exact ⟨number, .inr ⟨absent, reached⟩⟩

/-- A call that fails to bring its library leaves it absent. -/
theorem Misses.absent {time call : Nat} (misses : schedule.Misses time call)
    (secludes : schedule.Secludes language) (own : schedule.languages call = language)
    : schedule.library (time + 1) language = none := by
  obtain ⟨number, phase, failure, loading, downloads, returned⟩ := misses
  have absent := (suits secludes own loading).absent downloads
  rcases progresses_or_stays loading with ⟨turn, reached, came⟩ | stays
  · rw [own] at came
    rcases came.libraryOf_eq with same | ⟨_, _, _, rfl, _⟩
    · exact same.trans absent
    · cases returned.symm.trans reached
  · cases returned.symm.trans stays

/-- No load is about to bring a library after a call that fails to, by the one that may load it. -/
theorem Misses.idle {time call other number : Nat} {phase : Phase Tree Query}
    (misses : schedule.Misses time call)
    (same : schedule.languages other = schedule.languages call)
    (loading : schedule.stage (time + 1) other = .loading number phase)
    : ¬ phase.Downloads := by
  obtain ⟨number', phase', failure, before, _, returned⟩ := misses
  have different : other ≠ call := by
    rintro rfl
    cases loading.symm.trans returned
  rcases schedule.proceeds_or_stays time call with ⟨mishap, proceeds⟩ | stays
  · have loads : schedule.Loads time call := ⟨number', phase', before⟩
    have again : schedule.Loads time other :=
      ⟨number, phase, ((reaches proceeds).stages other different).symm.trans loading⟩
    exact (different (again.unique loads same)).elim
  · cases (before.symm.trans stays.symm).trans returned

/-- A library stays absent after a call that fails to bring it, until a call looks for it.  No load is
about to bring it meanwhile.
-/
theorem Misses.stays {time later call : Nat} (misses : schedule.Misses time call)
    (secludes : schedule.Secludes language) (own : schedule.languages call = language)
    (after : time < later)
    (unseen : ∀ between other,
      time < between → between < later → schedule.languages other = language
      → ¬ schedule.Looks between other)
    : schedule.library later language = none
      ∧ ∀ other number phase,
          schedule.languages other = language
          → schedule.stage later other = .loading number phase
          → ¬ phase.Downloads := by
  induction later, after using Nat.le_induction with
  | base =>
      exact ⟨misses.absent secludes own, fun other number phase same loading =>
        misses.idle (same.trans own.symm) loading⟩
  | succ later after ih =>
      obtain ⟨absent, idle⟩ := ih fun between other lower upper =>
        unseen between other lower (Nat.lt_succ_of_lt upper)
      constructor
      · rcases library_succ secludes later with same | ⟨other, number, _, _, own, loading, _⟩
        · exact same.trans absent
        · exact (idle other number _ own loading trivial).elim
      · intro other number phase own loading downloads
        by_cases loads : schedule.Loads later other
        · obtain ⟨number', before, loading'⟩ := loads
          have resting := idle other number' before own loading'
          rcases schedule.proceeds_or_stays later other with ⟨mishap, proceeds⟩ | stays
          · obtain ⟨turn, reached, came⟩ := progress loading' proceeds
            cases turn with
            | finished => cases loading.symm.trans reached
            | onward next =>
                cases loading.symm.trans reached
                rcases came.downloads downloads with rfl | downloading
                · exact unseen later other after (Nat.lt_succ_self later) own
                    ⟨⟨number, loading'⟩, ⟨mishap, proceeds⟩⟩
                · exact resting downloading
          · cases (loading.symm.trans stays).trans loading'
            exact resting downloads
        · cases looking_of_begun loads loading
          exact downloads

end Schedule

/-- Whatever the order in which the steps of the calls for a language come, and whatever goes wrong in
them: what stands under the name of its library was there at first or is what a fetch answered with;
it is fetched only while it is absent, and one fetch at most gives it its name; once it is there it
stays, and each call that looks for it opens it; and a call that fails to bring it leaves it absent,
so that the next call to look for it fetches again.
-/
theorem Schedule.libraries_whole (schedule : Schedule Tree Query) {language : LanguageId}
    (secludes : schedule.Secludes language)
    : (∀ time,
        schedule.library time language = schedule.library 0 language
        ∨ schedule.library 0 language = none
          ∧ ∃ call fetched,
              schedule.languages call = language
              ∧ schedule.Fetched time call fetched
              ∧ schedule.library time language = some (.file fetched))
      ∧ (∀ time call answer,
          schedule.languages call = language
          → schedule.Fetches time call answer
          → schedule.library time language = none)
      ∧ (∀ time named call,
          schedule.languages call = language
          → schedule.Supplies time named call
          → ∃ fetched,
              schedule.Fetches time call (.ok fetched)
              ∧ schedule.library (named + 1) language = some (.file fetched))
      ∧ (∀ time named call again renamed other,
          schedule.languages call = language
          → schedule.languages other = language
          → schedule.Supplies time named call
          → schedule.Supplies again renamed other
          → again = time ∧ renamed = named ∧ other = call)
      ∧ (∀ time later entry,
          schedule.library time language = some entry
          → time ≤ later
          → schedule.library later language = some entry
            ∧ ∀ call,
                schedule.languages call = language
                → schedule.Looks later call
                → ∃ number, schedule.stage (later + 1) call = .loading number .opening)
      ∧ ∀ time call,
          schedule.languages call = language
          → schedule.Misses time call
          → schedule.library (time + 1) language = none
            ∧ ∀ later other,
                time < later
                → schedule.languages other = language
                → schedule.Looks later other
                → (∀ between another,
                    time < between
                    → between < later
                    → schedule.languages another = language
                    → ¬ schedule.Looks between another)
                → ∃ number, schedule.stage (later + 1) other = .loading number .fetching := by
  refine ⟨schedule.library_eq secludes, fun _ _ _ own fetches => fetches.absent secludes own,
    ?_, ?_, ?_, ?_⟩
  · intro time named call own supplies
    obtain ⟨_, fetched, ⟨earlier, _, fetches⟩, held⟩ := supplies.names.arrives secludes own
    obtain ⟨_, refetches⟩ := supplies.fetches
    cases fetches.unique refetches
    exact ⟨fetched, fetches, held⟩
  · intro time named call again renamed other own own' supplies resupplies
    obtain ⟨rfl, rfl⟩ := supplies.names.unique resupplies.names secludes own own'
    obtain ⟨_, fetches⟩ := supplies.fetches
    obtain ⟨_, refetches⟩ := resupplies.fetches
    exact ⟨fetches.unique refetches, rfl, rfl⟩
  · intro time later entry present after
    have still := schedule.library_of_present secludes present after
    refine ⟨still, fun call own looks => ?_⟩
    obtain ⟨number, ⟨_, opening⟩ | ⟨absent, _⟩⟩ := looks.leads secludes own
    · exact ⟨number, opening⟩
    · cases absent.symm.trans still
  · intro time call own misses
    refine ⟨misses.absent secludes own, fun later other after same looks unseen => ?_⟩
    have absent := (misses.stays secludes own after unseen).1
    obtain ⟨number, ⟨held, _⟩ | ⟨_, fetching⟩⟩ := looks.leads secludes same
    · exact (held absent).elim
    · exact ⟨number, fetching⟩

/-- Two calls ask for a language.  The disk fails as the first of them writes the library, and a remnant
is left.
-/
def rewriting : Schedule String Unit where
  registry := {
    path := "grammars"
    source := {
      fetch _ _ := .ok commentLibrary
      fault attempt step :=
        if attempt = 0 ∧ step = .writePart then
          some (.other "No space left on device (os error 28)")
        else none } }
  unloaded := rfl
  languages _ := ⟨"go"⟩
  moves time :=
    .proceed ([0, 1, 0, 0, 0, 0, 0].getD time 1) { remnant := some (.junk [0x7F]) }

/-- The library is not there after the write that failed, and the other call fetches it again. -/
theorem libraries_whole_rewriting
    : rewriting.Secludes ⟨"go"⟩
      ∧ rewriting.Misses 6 0
      ∧ rewriting.library 7 ⟨"go"⟩ = none
      ∧ rewriting.Looks 8 1
      ∧ ∃ number, rewriting.stage 9 1 = .loading number .fetching := by
  have secludes : rewriting.Secludes ⟨"go"⟩ := ⟨rfl, nofun, fun _ _ => rfl⟩
  have misses : rewriting.Misses 6 0 := ⟨0, .writing 0 commentLibrary, _, rfl, trivial, rfl⟩
  have looks : rewriting.Looks 8 1 := ⟨⟨0, rfl⟩, ⟨_, rfl⟩⟩
  obtain ⟨_, _, _, _, _, missed⟩ := rewriting.libraries_whole secludes
  obtain ⟨absent, again⟩ := missed 6 0 rfl misses
  refine ⟨secludes, misses, absent, looks, again 8 1 (by decide) rfl looks ?_⟩
  intro between other lower upper _ early
  -- The move between is the one with which the other call begins to load.
  obtain rfl : between = 7 := by omega
  obtain ⟨⟨number, looking⟩, ⟨mishap, proceeds⟩⟩ := early
  cases proceeds
  cases looking

end SyntaxExplorer.GrammarRegistry
