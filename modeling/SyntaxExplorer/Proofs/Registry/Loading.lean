import Mathlib.Logic.Function.Iterate
import SyntaxExplorer.Registry.GrammarRegistry

/-! The load of a grammar, step by step.  It looks for the library, fetches one that is missing, makes
the folder, writes a part file, renames it and opens the library; other loads may take steps between
any two of these.  A load that none interrupts does what loading does.
-/

namespace SyntaxExplorer.GrammarRegistry

variable {Tree Query : Type}

-----------------------------------------------------------------------------------------
-- The steps of a load
-----------------------------------------------------------------------------------------

/-- How far a load has come.  A library that was fetched has the number of the request. -/
inductive Phase (Tree Query : Type)
  | looking
  | fetching
  | making (attempt : Nat) (library : Library Tree Query)
  | writing (attempt : Nat) (library : Library Tree Query)
  | naming (attempt : Nat) (library : Library Tree Query)
  | opening

/-- What a step of a load leads to: the load goes on, or it is over. -/
inductive Turn (Tree Query : Type)
  | onward (phase : Phase Tree Query)
  | finished (answer : Except Failure (LoadedGrammar Tree Query))

/-- What else may go wrong in a step: a write that fails leaves a remnant in its file, and the system
refuses to open a library, whatever is in it.
-/
structure Mishap (Tree Query : Type) where
  remnant : Option (Library Tree Query) := none
  refusal : Option Failure := none

/-- A load that cannot get its library is over. -/
def Turn.unavailable (language : LanguageId) (failure : Failure) : Turn Tree Query :=
  .finished (.error (.grammarUnavailable language.name failure.message))

/-- The registry after a write that failed. -/
def scrap (registry : GrammarRegistry Tree Query) (resource : String)
    (mishap : Mishap Tree Query) : GrammarRegistry Tree Query :=
  match mishap.remnant with
  | none => registry
  | some remnant => match registry.folder.write (partFile resource) remnant with
    | .ok folder => { registry with folder }
    | .error _ => registry

/-- One step of the load of a language. -/
def advance (registry : GrammarRegistry Tree Query) (language : LanguageId)
    (mishap : Mishap Tree Query)
    : Phase Tree Query → Turn Tree Query × GrammarRegistry Tree Query
  | .looking =>
      match registry.builtins language.resource with
      | some build => (.finished (.ok ⟨language, language.resource, .builtin, build⟩), registry)
      | none =>
          if registry.holds language.resource then (.onward .opening, registry)
          else (.onward .fetching, registry)
  | .fetching =>
      let fetched := registry.fetch language.resource
      match fetched.1 with
      | .ok library => (.onward (.making registry.requests.length library), fetched.2)
      | .error failure => (.unavailable language failure, fetched.2)
  | .making attempt library =>
      match registry.step attempt .makeFolder Folder.create with
      | (.ok (), made) => (.onward (.writing attempt library), made)
      | (.error failure, same) => (.unavailable language failure, same)
  | .writing attempt library =>
      match registry.step attempt .writePart
        (·.write (partFile language.resource) library) with
      | (.ok (), written) => (.onward (.naming attempt library), written)
      | (.error failure, same) =>
          (.unavailable language failure, same.scrap language.resource mishap)
  | .naming attempt _ =>
      match registry.step attempt .rename
        (·.rename (partFile language.resource) (libraryFile language.resource)) with
      | (.ok (), renamed) => (.onward .opening, renamed)
      | (.error failure, same) => (.unavailable language failure, same)
  | .opening =>
      match mishap.refusal with
      | some failure => (.finished (.error failure), registry)
      | none => (.finished (registry.construct language), registry)

-----------------------------------------------------------------------------------------
-- What comes of a step
-----------------------------------------------------------------------------------------

/-- A step of a download that succeeds changes the folder and nothing else. -/
theorem step_of_ok {registry next : GrammarRegistry Tree Query} {attempt : Nat}
    {kind : DownloadStep}
    {change : Folder (Library Tree Query) → Except IoFault (Folder (Library Tree Query))}
    (done : registry.step attempt kind change = (.ok (), next))
    : ∃ folder, change registry.folder = .ok folder ∧ next = { registry with folder } := by
  rw [step] at done
  split at done
  · cases done
  · split at done
    · cases done
    · rename_i folder changed
      cases done
      exact ⟨folder, changed, rfl⟩

/-- A step of a download that fails changes nothing. -/
theorem step_of_error {registry next : GrammarRegistry Tree Query} {attempt : Nat}
    {kind : DownloadStep} {failure : Failure}
    {change : Folder (Library Tree Query) → Except IoFault (Folder (Library Tree Query))}
    (failed : registry.step attempt kind change = (.error failure, next))
    : next = registry := by
  rw [step] at failed
  split at failed
  · cases failed
    rfl
  · split at failed
    · cases failed
      rfl
    · cases failed

/-- A grammar from a library has the language that it was made for. -/
theorem construct_language {registry : GrammarRegistry Tree Query} {language : LanguageId}
    {grammar : LoadedGrammar Tree Query} (constructed : registry.construct language = .ok grammar)
    : grammar.language = language := by
  simp only [construct, bind, Except.bind] at constructed
  split at constructed
  · cases constructed
  · split at constructed
    · cases constructed
      rfl
    · cases constructed

/-- What comes of a step of a load: the grammar is built in, the library is there or not, it is
fetched, written, renamed or opened, or the load fails.  A fetch counts as a request, and a write that
fails may reach the part file.
-/
inductive Progress (registry : GrammarRegistry Tree Query) (language : LanguageId)
    : Phase Tree Query → Turn Tree Query → GrammarRegistry Tree Query → Prop
  | builtin {build} (known : registry.builtins language.resource = some build)
    : Progress registry language .looking
        (.finished (.ok ⟨language, language.resource, .builtin, build⟩)) registry
  | present (foreign : registry.builtins language.resource = none)
    (held : registry.holds language.resource = true)
    : Progress registry language .looking (.onward .opening) registry
  | absent (foreign : registry.builtins language.resource = none)
    (lacked : registry.holds language.resource = false)
    : Progress registry language .looking (.onward .fetching) registry
  | fetched {library}
    (answer : (registry.fetch language.resource).1 = .ok library)
    : Progress registry language .fetching (.onward (.making registry.requests.length library))
        (registry.fetch language.resource).2
  | unfetched {failure} (answer : (registry.fetch language.resource).1 = .error failure)
    : Progress registry language .fetching (.unavailable language failure)
        (registry.fetch language.resource).2
  | made (attempt library) {folder} (made : registry.folder.create = .ok folder)
    : Progress registry language (.making attempt library) (.onward (.writing attempt library))
        { registry with folder }
  | written (attempt) {library folder}
    (written : registry.folder.write (partFile language.resource) library = .ok folder)
    : Progress registry language (.writing attempt library) (.onward (.naming attempt library))
        { registry with folder }
  | scrapped (attempt library failure) {remnant folder}
    (written : registry.folder.write (partFile language.resource) remnant = .ok folder)
    : Progress registry language (.writing attempt library) (.finished (.error failure))
        { registry with folder }
  | renamed (attempt library) {folder}
    (renamed : registry.folder.rename (partFile language.resource) (libraryFile language.resource)
      = .ok folder)
    : Progress registry language (.naming attempt library) (.onward .opening)
        { registry with folder }
  | opened {grammar} (constructed : registry.construct language = .ok grammar)
    : Progress registry language .opening (.finished (.ok grammar)) registry
  | failed {phase} (failure) (underWay : phase ≠ .looking)
    : Progress registry language phase (.finished (.error failure)) registry

/-- One of these comes of each step. -/
theorem advance_progress (registry : GrammarRegistry Tree Query) (language : LanguageId)
    (mishap : Mishap Tree Query) (phase : Phase Tree Query)
    : Progress registry language phase (registry.advance language mishap phase).1
        (registry.advance language mishap phase).2 := by
  cases phase with
  | looking =>
      simp only [advance]
      cases known : registry.builtins language.resource with
      | some build => exact .builtin known
      | none =>
          cases held : registry.holds language.resource with
          | true => exact .present known held
          | false => exact .absent known held
  | fetching =>
      simp only [advance]
      cases answer : (registry.fetch language.resource).1 with
      | ok library => exact .fetched answer
      | error failure => exact .unfetched answer
  | making attempt library =>
      simp only [advance]
      rcases done : registry.step attempt .makeFolder Folder.create with ⟨failure | ⟨⟩, next⟩
      · cases step_of_error done
        exact .failed _ nofun
      · obtain ⟨folder, made, rfl⟩ := step_of_ok done
        exact .made attempt library made
  | writing attempt library =>
      simp only [advance]
      rcases done : registry.step attempt .writePart
        (·.write (partFile language.resource) library) with ⟨failure | ⟨⟩, next⟩
      · cases step_of_error done
        simp only [scrap]
        split
        · exact .failed _ nofun
        · split
          · rename_i written
            exact .scrapped attempt library _ written
          · exact .failed _ nofun
      · obtain ⟨folder, written, rfl⟩ := step_of_ok done
        exact .written attempt written
  | naming attempt library =>
      simp only [advance]
      rcases done : registry.step attempt .rename
        (·.rename (partFile language.resource) (libraryFile language.resource)) with
        ⟨failure | ⟨⟩, next⟩
      · cases step_of_error done
        exact .failed _ nofun
      · obtain ⟨folder, renamed, rfl⟩ := step_of_ok done
        exact .renamed attempt library renamed
  | opening =>
      simp only [advance]
      split
      · exact .failed _ nofun
      · cases constructed : registry.construct language with
        | ok grammar => exact .opened constructed
        | error failure => exact .failed _ nofun

namespace Progress

variable {registry next : GrammarRegistry Tree Query} {language : LanguageId}
  {phase : Phase Tree Query} {turn : Turn Tree Query}

/-- A step of a load keeps no grammar. -/
theorem loaded_eq (came : Progress registry language phase turn next)
    : next.loaded = registry.loaded := by
  cases came <;> rfl

/-- A step of a load builds nothing in. -/
theorem builtins_eq (came : Progress registry language phase turn next)
    : next.builtins = registry.builtins := by
  cases came <;> rfl

/-- A load that succeeds gives a grammar of the language that it was for. -/
theorem language_eq {grammar : LoadedGrammar Tree Query}
    (came : Progress registry language phase (.finished (.ok grammar)) next)
    : grammar.language = language := by
  cases came with
  | builtin => rfl
  | opened constructed => exact construct_language constructed

end Progress

-----------------------------------------------------------------------------------------
-- A load that none interrupts
-----------------------------------------------------------------------------------------

/-- One step of a load without mishaps, from where the load and the registry are. -/
def pursue (language : LanguageId)
    : Turn Tree Query × GrammarRegistry Tree Query → Turn Tree Query × GrammarRegistry Tree Query
  | (.onward phase, registry) => registry.advance language {} phase
  | (.finished answer, registry) => (.finished answer, registry)

/-- A load that is over takes no more steps. -/
theorem pursue_finished (language : LanguageId) (answer : Except Failure (LoadedGrammar Tree Query))
    (registry : GrammarRegistry Tree Query) (count : Nat)
    : (pursue language)^[count] (.finished answer, registry) = (.finished answer, registry) :=
  Function.iterate_fixed rfl count

/-- A load that has its library keeps it in the folder and opens it. -/
theorem pursue_making (registry : GrammarRegistry Tree Query) (language : LanguageId)
    (attempt : Nat) (library : Library Tree Query)
    : (pursue language)^[4] (.onward (.making attempt library), registry)
      = match registry.keep attempt language.resource library with
        | (.error failure, reached) => (.unavailable language failure, reached)
        | (.ok (), reached) => (.finished (reached.construct language), reached) := by
  rw [keep, Function.iterate_succ_apply, pursue, advance]
  rcases registry.step attempt .makeFolder Folder.create with ⟨failure | ⟨⟩, made⟩
  · exact pursue_finished _ _ _ _
  · simp only
    rw [Function.iterate_succ_apply, pursue, advance]
    rcases made.step attempt .writePart (·.write (partFile language.resource) library) with
      ⟨failure | ⟨⟩, written⟩
    · exact pursue_finished _ _ _ _
    · simp only
      rw [Function.iterate_succ_apply, pursue, advance]
      rcases written.step attempt .rename
        (·.rename (partFile language.resource) (libraryFile language.resource)) with
        ⟨failure | ⟨⟩, renamed⟩ <;> rfl

/-- A load that lacks its library downloads it and opens it. -/
theorem pursue_fetching (registry : GrammarRegistry Tree Query) (language : LanguageId)
    : (pursue language)^[5] (.onward .fetching, registry)
      = match registry.download language.resource with
        | (.error failure, reached) => (.unavailable language failure, reached)
        | (.ok (), reached) => (.finished (reached.construct language), reached) := by
  rw [download, Function.iterate_succ_apply, pursue, advance]
  rcases registry.fetch language.resource with ⟨failure | library, fetched⟩
  · exact pursue_finished _ _ _ _
  · exact pursue_making fetched language _ library

/-- Loading is a load that none interrupts. -/
theorem pursue_looking (registry : GrammarRegistry Tree Query) (language : LanguageId)
    : (pursue language)^[6] (.onward .looking, registry)
      = (.finished (registry.load language).1, (registry.load language).2) := by
  rw [load, Function.iterate_succ_apply, pursue, advance]
  cases registry.builtins language.resource with
  | some build => exact pursue_finished _ _ _ _
  | none =>
      simp only
      split
      · rw [Function.iterate_succ_apply, pursue, advance, pursue_finished]
      · rw [pursue_fetching]
        rcases registry.download language.resource with ⟨failure | ⟨⟩, reached⟩ <;> rfl

end SyntaxExplorer.GrammarRegistry
