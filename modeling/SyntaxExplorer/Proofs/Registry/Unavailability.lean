import SyntaxExplorer.Proofs.Registry.LibraryFiles

/-! How it is told that a grammar is unavailable.  Whatever goes wrong on the way to a library, the
language that was asked for is told; but a library that is there and of no use is told by the name of
the grammar, which is no language's own name.
-/

namespace SyntaxExplorer

variable {Tree Query : Type}

/-- No language has the name of its grammar. -/
theorem LanguageId.resource_ne_name (language : LanguageId)
    : language.resource ≠ language.name := by
  obtain ⟨name⟩ := language
  rw [resource]
  cases known : exceptions.lookup name with
  | none =>
      intro same
      have length := congrArg String.length same
      simp [resourcePrefix] at length
  | some stem =>
      obtain ⟨before, after, whole, _⟩ := List.lookup_eq_some_iff.mp known
      have member : (name, stem) ∈ exceptions := by simp [whole]
      simp only [exceptions, List.mem_cons, Prod.mk.injEq, List.not_mem_nil, or_false] at member
      rcases member with ⟨rfl, rfl⟩ | ⟨rfl, rfl⟩ | ⟨rfl, rfl⟩ | ⟨rfl, rfl⟩ <;> decide

namespace GrammarRegistry

variable {registry reached : GrammarRegistry Tree Query} {language : LanguageId}
variable {phase next : Phase Tree Query} {grammar : LoadedGrammar Tree Query}

-----------------------------------------------------------------------------------------
-- What is told, and what is kept
-----------------------------------------------------------------------------------------

/-- What stands under the name of the library of a language is of no use: it is not taken for a
library, or it lacks the constructor of the grammar.
-/
structure Unusable (registry : GrammarRegistry Tree Query) (language : LanguageId) : Prop where
  foreign : registry.builtins language.resource = none
  present : registry.libraryOf language ≠ none
  unfit
    : ∀ constructors,
        registry.libraryOf language = some (.file (.image constructors))
        → constructors.lookup (constructorName language.resource) = none

/-- A failure tells that the grammar of a language is unavailable: by the name of the language, but by
that of the grammar if the library is unusable.
-/
def Tells (registry : GrammarRegistry Tree Query) (language : LanguageId) (failure : Failure)
    : Prop :=
  ∃ name reason,
    failure = .grammarUnavailable name reason
    ∧ (registry.Unusable language → name = language.resource)
    ∧ (¬ registry.Unusable language → name = language.name)

/-- A grammar is that of a language and, unless it is built in, can be read. -/
structure Serves (registry : GrammarRegistry Tree Query) (language : LanguageId)
    (grammar : LoadedGrammar Tree Query)
    : Prop where
  own : grammar.language = language
  readable : registry.builtins language.resource = none → grammar.build.check = .ok ()

/-- The grammars that are kept serve their languages. -/
def KeepsOwn (registry : GrammarRegistry Tree Query) : Prop :=
  ∀ language grammar, registry.find? language = some grammar → registry.Serves language grammar

/-- Unless the library is unusable, the language is told. -/
theorem tells_of_not_unusable (usable : ¬ registry.Unusable language) (reason : String)
    : registry.Tells language (.grammarUnavailable language.name reason) :=
  ⟨_, reason, rfl, fun unusable => (usable unusable).elim, fun _ => rfl⟩

/-- Of an unusable library, the grammar is told. -/
theorem tells_of_unusable (unusable : registry.Unusable language) (reason : String)
    : registry.Tells language (.grammarUnavailable language.resource reason) :=
  ⟨_, reason, rfl, fun _ => rfl, fun usable => (usable unusable).elim⟩

-----------------------------------------------------------------------------------------
-- Opening a library
-----------------------------------------------------------------------------------------

/-- A library that is there is unusable or has the constructor of the grammar. -/
theorem unusable_or_built (foreign : registry.builtins language.resource = none)
    (present : registry.libraryOf language ≠ none)
    : registry.Unusable language
      ∨ ∃ constructors build,
          registry.libraryOf language = some (.file (.image constructors))
          ∧ constructors.lookup (constructorName language.resource) = some build := by
  by_cases built : ∃ constructors build,
      registry.libraryOf language = some (.file (.image constructors))
      ∧ constructors.lookup (constructorName language.resource) = some build
  · exact .inr built
  · refine .inl ⟨foreign, present, fun constructors image => ?_⟩
    refine Option.eq_none_iff_forall_ne_some.mpr fun build found => ?_
    exact built ⟨constructors, build, image, found⟩

/-- No grammar is made from an unusable library, and the grammar is told. -/
theorem construct_of_unusable (unusable : registry.Unusable language)
    : ∃ reason,
        registry.construct language
          = .error (.grammarUnavailable language.resource reason) := by
  simp only [construct, bind, Except.bind]
  cases read : registry.folder.read (libraryFile language.resource) with
  | error fault => exact ⟨_, rfl⟩
  | ok library =>
      cases library with
      | junk bytes => exact ⟨_, rfl⟩
      | image constructors =>
          have lacks := unusable.unfit constructors (Folder.read_eq_ok_iff.mp read)
          simp only [Library.construct, lacks]
          exact ⟨_, rfl⟩

/-- A grammar is made from a library with its constructor if it can be read; else the language is
told.
-/
theorem construct_of_built {constructors : List (String × GrammarBuild Tree Query)}
    {build : GrammarBuild Tree Query}
    (image : registry.libraryOf language = some (.file (.image constructors)))
    (built : constructors.lookup (constructorName language.resource) = some build)
    : registry.construct language
      = match build.check with
        | .ok () =>
            .ok ⟨language, language.resource,
              .library (registry.libraryPath language.resource), build⟩
        | .error reason => .error (.grammarUnavailable language.name reason) := by
  have read := Folder.read_eq_ok_iff.mpr image
  simp only [construct, bind, Except.bind, read, Library.construct, built]
  cases build.check <;> rfl

-----------------------------------------------------------------------------------------
-- What a load comes to
-----------------------------------------------------------------------------------------

/-- What holds while a load is under way: its grammar is not built in, its library is absent until it
is brought, and there when it is opened.
-/
structure Phase.Stands (registry : GrammarRegistry Tree Query) (language : LanguageId)
    (phase : Phase Tree Query)
    : Prop where
  foreign : phase ≠ .looking → registry.builtins language.resource = none
  suits : phase.Suits registry language fun _ => True
  present : phase = .opening → registry.libraryOf language ≠ none

/-- A load stands where it is, or is over with a grammar from a usable library, or tells that there is
none.
-/
def Turn.Accounts (registry : GrammarRegistry Tree Query) (language : LanguageId)
    : Turn Tree Query → Prop
  | .onward phase => phase.Stands registry language
  | .finished (.ok grammar) =>
      registry.Serves language grammar ∧ ¬ registry.Unusable language
  | .finished (.error failure) => registry.Tells language failure

/-- A load that goes on stands where it gets. -/
theorem Progress.stands (came : Progress registry language phase (.onward next) reached)
    (stands : phase.Stands registry language)
    : next.Stands reached language where
  foreign _ := by
    rw [came.builtins_eq]
    cases came with
    | present foreign | absent foreign => exact foreign
    | fetched | made | written | renamed => exact stands.foreign nofun
  suits := came.suits stands.suits (fun _ _ => trivial) (fun _ _ _ => trivial)
  present opening := by
    subst opening
    cases came with
    | present _ held => exact Option.isSome_iff_ne_none.mp held
    | renamed _ _ renamed =>
        obtain ⟨content, _, found, _⟩ := Folder.steps_of_rename renamed
        rw [libraryOf, Folder.find?_rename_self renamed, found]
        exact Option.some_ne_none _

/-- A load that ends as it looks for its library has a grammar that is built in. -/
theorem Progress.accounts_of_looking {answer : Except Failure (LoadedGrammar Tree Query)}
    (came : Progress registry language .looking (.finished answer) reached)
    : Turn.Accounts reached language (.finished answer) := by
  cases came with
  | builtin known =>
      have familiar : registry.builtins language.resource ≠ none := by
        rw [known]
        exact Option.some_ne_none _
      exact ⟨⟨rfl, fun foreign => (familiar foreign).elim⟩,
        fun unusable => familiar unusable.foreign⟩
  | failed _ underWay => exact (underWay rfl).elim

/-- A load that ends before it has brought its library tells the language, and the library is as absent
as it was.
-/
theorem accounts_of_downloads {answer : Except Failure (LoadedGrammar Tree Query)}
    (stands : phase.Stands registry language) (downloads : phase.Downloads)
    (ended : registry.advance language {} phase = (.finished answer, reached))
    : Turn.Accounts reached language (.finished answer) := by
  have absent : reached.libraryOf language = none := by
    have came := registry.advance_progress language {} phase
    rw [ended] at came
    rcases came.libraryOf_eq with same | ⟨_, _, _, onward, _⟩
    · exact same.trans (stands.suits.absent downloads)
    · cases onward
  have told : ∃ cause : Failure,
      answer = .error (.grammarUnavailable language.name cause.message) := by
    have ends := congrArg Prod.fst ended
    cases phase with
    | looking | opening => exact downloads.elim
    | fetching | making | writing | naming =>
        simp only [advance] at ends
        split at ends
        · cases ends
        · cases ends
          exact ⟨_, rfl⟩
  obtain ⟨cause, rfl⟩ := told
  exact tells_of_not_unusable (fun unusable => unusable.present absent) _

/-- A load that opens its library accounts for what comes of that. -/
theorem construct_accounts (stands : Phase.Stands registry language .opening)
    : Turn.Accounts registry language (.finished (registry.construct language)) := by
  rcases unusable_or_built (stands.foreign nofun) (stands.present rfl) with
    unusable | ⟨constructors, build, image, built⟩
  · obtain ⟨reason, told⟩ := construct_of_unusable unusable
    rw [told]
    exact tells_of_unusable unusable reason
  · have usable : ¬ registry.Unusable language := fun unusable => by
      cases (unusable.unfit constructors image).symm.trans built
    rw [construct_of_built image built]
    cases readable : build.check with
    | ok => exact ⟨⟨rfl, fun _ => readable⟩, usable⟩
    | error reason => exact tells_of_not_unusable usable reason

/-- One step of a load accounts for where it gets. -/
theorem advance_accounts (stands : phase.Stands registry language)
    : Turn.Accounts (registry.advance language {} phase).2 language
        (registry.advance language {} phase).1 := by
  have came := registry.advance_progress language {} phase
  rcases ended : registry.advance language {} phase with ⟨next | answer, reached⟩
  · rw [ended] at came
    exact came.stands stands
  · cases phase with
    | looking =>
        rw [ended] at came
        exact came.accounts_of_looking
    | fetching | making | writing | naming => exact accounts_of_downloads stands trivial ended
    | opening =>
        cases ended
        exact construct_accounts stands

/-- A load that none interrupts accounts for where it gets after any number of steps, by induction on
their number.
-/
theorem pursue_accounts (state : Turn Tree Query × GrammarRegistry Tree Query)
    (accounts : state.1.Accounts state.2 language) (count : Nat)
    : ((pursue language)^[count] state).1.Accounts ((pursue language)^[count] state).2
        language := by
  induction count generalizing state with
  | zero => exact accounts
  | succ count ih =>
      rw [Function.iterate_succ_apply]
      obtain ⟨phase | answer, registry⟩ := state
      · exact ih _ (advance_accounts accounts)
      · exact ih _ accounts

/-- Loading accounts for its answer. -/
theorem load_accounts (registry : GrammarRegistry Tree Query) (language : LanguageId)
    : Turn.Accounts (registry.load language).2 language (.finished (registry.load language).1) := by
  have stands : Phase.Stands registry language .looking :=
    ⟨fun looked => (looked rfl).elim, trivial, nofun⟩
  have accounts := pursue_accounts (.onward .looking, registry) stands 6
  rwa [pursue_looking] at accounts

-----------------------------------------------------------------------------------------
-- The grammars that are kept
-----------------------------------------------------------------------------------------

/-- A load keeps no grammar and builds nothing in, after any number of steps. -/
theorem pursue_leaves (state : Turn Tree Query × GrammarRegistry Tree Query)
    (language : LanguageId) (count : Nat)
    : ((pursue language)^[count] state).2.loaded = state.2.loaded
      ∧ ((pursue language)^[count] state).2.builtins = state.2.builtins := by
  induction count generalizing state with
  | zero => exact ⟨rfl, rfl⟩
  | succ count ih =>
      rw [Function.iterate_succ_apply]
      obtain ⟨phase | answer, registry⟩ := state
      · have came := registry.advance_progress language {} phase
        obtain ⟨loaded, builtins⟩ := ih (pursue language (.onward phase, registry))
        exact ⟨loaded.trans came.loaded_eq, builtins.trans came.builtins_eq⟩
      · exact ih _

/-- Grammars that are kept serve their languages for as long as none is kept or built in. -/
theorem KeepsOwn.of_leaves (keeps : registry.KeepsOwn)
    (leaves : reached.loaded = registry.loaded ∧ reached.builtins = registry.builtins)
    : reached.KeepsOwn := by
  intro language grammar found
  rw [find?, leaves.1] at found
  obtain ⟨own, readable⟩ := keeps language grammar found
  exact ⟨own, fun foreign => readable (leaves.2 ▸ foreign)⟩

/-- What comes of getting a grammar: it is kept, it cannot be loaded, or it is loaded and kept from then
on.
-/
inductive GetOutcome (registry : GrammarRegistry Tree Query) (language : LanguageId)
    : Except Failure (LoadedGrammar Tree Query) → GrammarRegistry Tree Query → Prop
  | kept {grammar : LoadedGrammar Tree Query} (known : registry.find? language = some grammar)
    : GetOutcome registry language (.ok grammar) registry
  | failed {failure} {reached : GrammarRegistry Tree Query}
    (unkept : registry.find? language = none)
    (leaves : reached.loaded = registry.loaded ∧ reached.builtins = registry.builtins)
    (tells : reached.Tells language failure)
    : GetOutcome registry language (.error failure) reached
  | loaded {grammar : LoadedGrammar Tree Query} {reached : GrammarRegistry Tree Query}
    (unkept : registry.find? language = none)
    (leaves : reached.loaded = registry.loaded ∧ reached.builtins = registry.builtins)
    (serves : reached.Serves language grammar) (usable : ¬ reached.Unusable language)
    : GetOutcome registry language (.ok grammar)
        { reached with loaded := (language, grammar) :: reached.loaded }

/-- Getting a grammar has one of these outcomes. -/
theorem get_outcome (registry : GrammarRegistry Tree Query) (language : LanguageId)
    : GetOutcome registry language (registry.get language).1 (registry.get language).2 := by
  rw [get]
  cases kept : registry.find? language with
  | some grammar => exact .kept kept
  | none =>
      have accounts := registry.load_accounts language
      have leaves := pursue_leaves (.onward .looking, registry) language 6
      rw [pursue_looking] at leaves
      generalize registry.load language = result at accounts leaves ⊢
      obtain ⟨failure | grammar, reached⟩ := result
      · exact .failed kept leaves accounts
      · exact .loaded kept leaves accounts.1 accounts.2

namespace GetOutcome

variable {answer : Except Failure (LoadedGrammar Tree Query)}

/-- A grammar that cannot be had is told to be unavailable. -/
theorem tells {failure : Failure} (outcome : GetOutcome registry language (.error failure) reached)
    : reached.Tells language failure := by
  cases outcome with
  | failed _ _ tells => exact tells

/-- A grammar that is not kept and whose library is unusable cannot be had, and the grammar is told. -/
theorem of_unusable (outcome : GetOutcome registry language answer reached)
    (unkept : registry.find? language = none) (unusable : reached.Unusable language)
    : ∃ reason, answer = .error (.grammarUnavailable language.resource reason) := by
  cases outcome with
  | kept known => cases unkept.symm.trans known
  | failed _ _ tells =>
      obtain ⟨_, reason, rfl, resource, _⟩ := tells
      rw [resource unusable]
      exact ⟨reason, rfl⟩
  | loaded _ _ _ usable =>
      exact (usable ⟨unusable.foreign, unusable.present, unusable.unfit⟩).elim

/-- A grammar that can be had serves its language. -/
theorem serves (outcome : GetOutcome registry language (.ok grammar) reached)
    (keeps : registry.KeepsOwn)
    : reached.Serves language grammar := by
  cases outcome with
  | kept known => exact keeps language grammar known
  | loaded _ _ serves _ => exact ⟨serves.own, serves.readable⟩

/-- Getting a grammar keeps none but those that serve their languages. -/
theorem keepsOwn (outcome : GetOutcome registry language answer reached)
    (keeps : registry.KeepsOwn)
    : reached.KeepsOwn := by
  cases outcome with
  | kept => exact keeps
  | failed _ leaves _ => exact keeps.of_leaves leaves
  | loaded _ leaves serves _ =>
      intro other held found
      by_cases same : other = language
      · subst same
        rw [find?, List.lookup_cons_self] at found
        cases found
        exact ⟨serves.own, serves.readable⟩
      · have skipped : (other == language) = false := beq_eq_false_iff_ne.mpr same
        rw [find?, List.lookup_cons, skipped] at found
        obtain ⟨own, readable⟩ := keeps.of_leaves leaves other held found
        exact ⟨own, readable⟩

end GetOutcome

end GrammarRegistry

end SyntaxExplorer
