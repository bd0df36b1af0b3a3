import SyntaxExplorer.Proofs.Explorer.CommentDocuments
import SyntaxExplorer.Proofs.Explorer.Filing
import SyntaxExplorer.Proofs.Registry.Unavailability

/-! How an explorer tells that a document cannot be opened: the grammar of its language is unavailable,
which is told as the registry tells it, after any run of the explorer and whatever others did to the
folder of libraries meanwhile.
-/

namespace SyntaxExplorer.Explorer

open GrammarRegistry

variable {Tree Query : Type} {explorer : Explorer Tree Query}

-----------------------------------------------------------------------------------------
-- The grammars that are kept in a run
-----------------------------------------------------------------------------------------

/-- The explorer when the folder of libraries is as others left it. -/
def withLibraries (explorer : Explorer Tree Query) (folder : Folder (Library Tree Query))
    : Explorer Tree Query :=
  { explorer with registry := { explorer.registry with folder } }

/-- The explorer after some operations.  Before each, others may change the folder of libraries. -/
def afterAmid (explorer : Explorer Tree Query)
    (steps : List (Folder (Library Tree Query) × Operation))
    : Explorer Tree Query :=
  steps.foldl (fun explorer (folder, operation) =>
    (explorer.withLibraries folder).perform operation) explorer

/-- Making a session gets the grammar of its document. -/
theorem registry_create (explorer : Explorer Tree Query) (state : ViewState) (document : Document)
    : (explorer.create state document).2.registry
      = (explorer.registry.get document.language).2 := by
  rw [create]
  rcases explorer.registry.get document.language with ⟨failure | grammar, registry⟩
  · rfl
  · simp only
    cases Session.resume state document.text grammar explorer.matchLimit with
    | error failure => rfl
    | ok session => exact registry_commit _ _ _

/-- Making a session keeps no grammars but those that serve their languages. -/
theorem keepsOwn_create (keeps : explorer.registry.KeepsOwn) (state : ViewState)
    (document : Document)
    : (explorer.create state document).2.registry.KeepsOwn := by
  rw [registry_create]
  exact (explorer.registry.get_outcome document.language).keepsOwn keeps

/-- Nor does resuming a view. -/
theorem keepsOwn_resume (keeps : explorer.registry.KeepsOwn) (state : ViewState) (host : Host)
    : (explorer.resume state host).2.registry.KeepsOwn := by
  rw [Explorer.resume]
  split
  · split
    · exact keeps
    · split
      · exact keeps
      · exact keepsOwn_create keeps state _
  · exact keeps

/-- Nor does any operation. -/
theorem keepsOwn_perform (keeps : explorer.registry.KeepsOwn) (operation : Operation)
    : (explorer.perform operation).registry.KeepsOwn := by
  cases operation with
  | «open» document =>
      rw [perform, Explorer.open]
      split
      · exact keeps
      · exact keepsOwn_create keeps _ document
  | resume state host => exact keepsOwn_resume keeps state host
  | resumeSaved uri host =>
      rw [perform, Explorer.resumeSaved]
      split
      · rename_i state store _
        have resumed :=
          keepsOwn_resume (show { explorer with store }.registry.KeepsOwn from keeps) state host
        generalize { explorer with store }.resume state host = result at resumed ⊢
        obtain ⟨_ | opened, next⟩ := result <;> exact resumed
      · exact keeps
  | close uri =>
      rw [perform, close]
      split <;> exact keeps
  | suspend uri mishap =>
      have closed : (explorer.close uri).2.registry.KeepsOwn := by
        rw [close]
        split <;> exact keeps
      rw [perform, suspend]
      generalize explorer.close uri = result at closed ⊢
      obtain ⟨_ | state, next⟩ := result <;> exact closed
  | visit uri call =>
      rw [perform, withSession]
      split <;> exact keeps

/-- Nor does a run, whatever others do to the folder of libraries, by induction on the run. -/
theorem keepsOwn_afterAmid (keeps : explorer.registry.KeepsOwn)
    (steps : List (Folder (Library Tree Query) × Operation))
    : (explorer.afterAmid steps).registry.KeepsOwn := by
  induction steps generalizing explorer with
  | nil => exact keeps
  | cons step rest ih =>
      obtain ⟨folder, operation⟩ := step
      have changed : (explorer.withLibraries folder).registry.KeepsOwn :=
        keeps.of_leaves ⟨rfl, rfl⟩
      exact ih (keepsOwn_perform changed operation)

-----------------------------------------------------------------------------------------
-- Opening that fails
-----------------------------------------------------------------------------------------

/-- A session cannot be made if its grammar cannot be had. -/
theorem create_of_unavailable {state : ViewState} {document : Document} {failure : Failure}
    (unavailable : (explorer.registry.get document.language).1 = .error failure)
    : (explorer.create state document).1 = .error failure := by
  rw [create]
  generalize explorer.registry.get document.language = result at unavailable ⊢
  obtain ⟨answer, registry⟩ := result
  subst unavailable
  rfl

/-- A session cannot be made only if its grammar is unavailable, which is told. -/
theorem create_tells (keeps : explorer.registry.KeepsOwn) {state : ViewState}
    {document : Document} {failure : Failure}
    (failed : (explorer.create state document).1 = .error failure)
    : (explorer.registry.get document.language).2.Tells document.language failure := by
  have outcome := explorer.registry.get_outcome document.language
  rw [create] at failed
  generalize explorer.registry.get document.language = result at failed outcome ⊢
  obtain ⟨cause | grammar, registry⟩ := result
  · cases failed
    exact outcome.tells
  · have serves := outcome.serves keeps
    simp only at failed
    cases resumed : Session.resume state document.text grammar explorer.matchLimit with
    | ok session =>
        rw [resumed] at failed
        cases failed
    | error cause =>
        rw [resumed] at failed
        cases failed
        obtain ⟨reason, unreadable, rfl⟩ := Session.unreadable_of_resume resumed
        rw [serves.own]
        -- Tables that cannot be read are built in, so there is no library to be of no use.
        refine tells_of_not_unusable (fun unusable => ?_) reason
        cases (serves.readable unusable.foreign).symm.trans unreadable

/-- After any run of an explorer that began without grammars, and whatever the folder of libraries then
holds: if the grammar of a language cannot be had, this tells that it is unavailable, by the name of
the language or, exactly if its library is unusable, by that of the grammar, which no language has; and
an unusable library of a grammar that is not kept is always told so.  Opening a document of the language
fails where it is not open and the grammar cannot be had, with the same failure; and if it fails, it
tells in the same way.
-/
theorem open_tellsUnavailable (unloaded : explorer.registry.loaded = [])
    (steps : List (Folder (Library Tree Query) × Operation))
    (folder : Folder (Library Tree Query)) (document : Document)
    : let reached := (explorer.afterAmid steps).withLibraries folder
      let language := document.language
      let got := reached.registry.get language
      language.resource ≠ language.name
      ∧ (∀ failure, got.1 = .error failure → got.2.Tells language failure)
      ∧ (reached.registry.find? language = none
          → got.2.Unusable language
          → ∃ reason, got.1 = .error (.grammarUnavailable language.resource reason))
      ∧ (∀ failure,
          got.1 = .error failure
          → reached.find? document.uri = none
          → (reached.open document).1 = .error failure)
      ∧ ∀ failure,
          (reached.open document).1 = .error failure
          → reached.find? document.uri = none ∧ got.2.Tells language failure := by
  intro reached language got
  have none : explorer.registry.KeepsOwn := by
    intro language grammar found
    rw [GrammarRegistry.find?, unloaded] at found
    cases found
  have keeps : reached.registry.KeepsOwn :=
    (keepsOwn_afterAmid none steps).of_leaves ⟨rfl, rfl⟩
  have outcome := reached.registry.get_outcome language
  refine ⟨language.resource_ne_name, fun failure failed => ?_, outcome.of_unusable,
    fun failure failed vacant => ?_, fun failure failed => ?_⟩
  · rw [show reached.registry.get language = (got.1, got.2) from rfl, failed] at outcome
    exact outcome.tells
  · rw [Explorer.open, vacant]
    exact create_of_unavailable failed
  · rw [Explorer.open] at failed
    cases present : reached.find? document.uri with
    | some existing =>
        rw [present] at failed
        cases failed
    | none =>
        rw [present] at failed
        exact ⟨rfl, create_tells keeps failed⟩

/-- A folder of libraries with a file that is none. -/
def junkFolder : Folder (Library String Unit) :=
  .holding [("tree-sitter-c_sharp.so", .file (.junk [0x6A, 0x75, 0x6E, 0x6B]))]

/-- A document in the language of that file. -/
def sharpDocument : Document := ⟨"file:///a.cs", ⟨"csharp"⟩, "//a"⟩

/-- A library that others put into the folder and that is of no use is told by the name of its grammar;
without it, the language would be told.
-/
theorem open_tellsUnavailable_sharp
    : let start := CommentLines.explorer .missing
      let steps := [(.missing, .open sharpDocument)]
      let reached := start.afterAmid steps
      let later := reached.withLibraries junkFolder
      start.registry.loaded = []
      ∧ (∃ reason, (start.open sharpDocument).1 = .error (.grammarUnavailable "csharp" reason))
      ∧ (later.registry.get ⟨"csharp"⟩).2.Unusable ⟨"csharp"⟩
      ∧ ∃ reason,
          (later.registry.get ⟨"csharp"⟩).1
            = .error (.grammarUnavailable "tree-sitter-c_sharp" reason)
          ∧ (later.open sharpDocument).1
            = .error (.grammarUnavailable "tree-sitter-c_sharp" reason) := by
  intro start steps reached later
  have unusable : (later.registry.get ⟨"csharp"⟩).2.Unusable ⟨"csharp"⟩ :=
    ⟨rfl, nofun, nofun⟩
  have absent : ¬ (start.registry.get ⟨"csharp"⟩).2.Unusable ⟨"csharp"⟩ :=
    fun unusable => unusable.present rfl
  obtain ⟨_, _, misnames, fails, _⟩ :=
    open_tellsUnavailable (rfl : start.registry.loaded = []) steps junkFolder sharpDocument
  obtain ⟨_, _, _, _, tells⟩ :=
    open_tellsUnavailable (rfl : start.registry.loaded = []) [] .missing sharpDocument
  obtain ⟨_, name, reason, told, _, named⟩ := tells _ rfl
  obtain rfl := named absent
  obtain ⟨reason', failed⟩ := misnames rfl unusable
  exact ⟨rfl, ⟨reason, congrArg Except.error told⟩, unusable, reason', failed,
    fails _ failed rfl⟩

/-- The failure to get a grammar whose library cannot be opened does not tell the language that was
asked for, and so neither does that to open a document.
-/
theorem open_misnames_sharp
    : let explorer := (CommentLines.explorer .missing).withLibraries junkFolder
      ∃ failure,
        (explorer.registry.get ⟨"csharp"⟩).1 = .error failure
        ∧ (explorer.open sharpDocument).1 = .error failure
        ∧ ¬ ∃ reason, failure = .grammarUnavailable "csharp" reason := by
  intro explorer
  refine ⟨_, rfl, rfl, ?_⟩
  rintro ⟨reason, same⟩
  exact absurd (Failure.grammarUnavailable.inj same).1 (by decide)

end SyntaxExplorer.Explorer
