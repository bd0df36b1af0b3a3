import SyntaxExplorer.Proofs.Store.Files
import SyntaxExplorer.Store.SessionStore

/-! Saving a state: it fails exactly where something that is no file stands in its way or where a mishap
strikes.  Then the file of the document is as before, unless it was emptied and took the first bytes
only; all other files are left alone in any case.
-/

namespace SyntaxExplorer

/-- The digits of a number do not contain a slash, by induction over the digits. -/
theorem slash_notMem_toDigits (number : Nat) : '/' ∉ Nat.toDigits 16 number := by
  induction number using Nat.strongRecOn with
  | ind number ih =>
      have digit (value : Nat) : '/' ≠ value.digitChar :=
        (Nat.digitChar_ne '/' (by decide)).symm
      by_cases small : number < 16
      · rw [Nat.toDigits_of_lt_base small, List.mem_singleton]
        exact digit number
      · have smaller : number / 16 < number := by omega
        rw [Nat.toDigits_of_base_le (by decide) (by omega), List.mem_append, List.mem_singleton]
        exact not_or.mpr ⟨ih _ smaller, digit _⟩

namespace Folder

variable {α : Type}

/-- The entries of a folder, none where there is no folder. -/
def entries : Folder α → List (String × FolderEntry α)
  | .holding entries => entries
  | _ => []

/-- A file is written unless a folder stands under its name. -/
theorem write_of_no_folder {entries : List (String × FolderEntry α)} {name : String}
    (plain : name.contains '/' = false) (free : entries.lookup name ≠ some .folder) (content : α)
    : (Folder.holding entries).write name content
      = .ok (.holding (put name (.file content) entries)) := by
  rw [write]
  cases found : entries.lookup name with
  | none => simp [plain]
  | some entry =>
      cases entry with
      | file earlier => simp [plain]
      | folder => exact (free found).elim

/-- What was put under a name is read from it. -/
theorem read_put (entries : List (String × FolderEntry α)) (name : String) (content : α)
    : (Folder.holding (put name (.file content) entries)).read name = .ok content := by
  simp [read, put]

end Folder

namespace SessionStore

/-- The file of a document lies in the folder itself. -/
theorem fileOf_isPlain (uri : String) : (fileOf uri).contains '/' = false := by
  have suffix : '/' ∉ ".state".toList := by decide
  have digits : '/' ∉ (Digest.ofText uri).toList := by
    rw [Digest.ofText, String.toList_ofList, List.mem_append]
    exact not_or.mpr ⟨by simp [List.mem_replicate], slash_notMem_toDigits _⟩
  rw [String.contains_char_eq, decide_eq_false_iff_not, fileOf, String.toList_append,
    List.mem_append]
  exact not_or.mpr ⟨digits, suffix⟩

/-- A store refuses the states of a document if a file stands in the place of its folder, or a
folder in the place of the document's file.
-/
def Refuses (store : SessionStore) (uri : String) : Prop :=
  store = .blocked ∨ store.find? (fileOf uri) = some .folder

/-- Where a store refuses the states of a document, its folder cannot be made or the file cannot be
written.
-/
theorem write_of_refuses {store : SessionStore} {uri : String} (refuses : store.Refuses uri)
    : store.create = .error .alreadyExists
      ∨ store.create = .ok store
        ∧ ∀ bytes, store.write (fileOf uri) bytes = .error .isADirectory := by
  cases store with
  | missing => simp [Refuses, Folder.find?] at refuses
  | blocked => exact .inl rfl
  | holding entries =>
      have folder : entries.lookup (fileOf uri) = some .folder := by
        simpa [Refuses, Folder.find?] using refuses
      exact .inr ⟨rfl, fun bytes => by simp only [Folder.write, folder]⟩

/-- Where it does not, the folder is there or made, and the file is written beside what other files
there are.
-/
theorem write_of_not_refuses {store : SessionStore} {uri : String} (accepts : ¬ store.Refuses uri)
    : ∃ made : SessionStore,
        store.create = .ok made
        ∧ ∀ bytes,
            made.write (fileOf uri) bytes
            = .ok (.holding (Folder.put (fileOf uri) (.file bytes) (Folder.entries store))) := by
  have plain := fileOf_isPlain uri
  cases store with
  | blocked => exact (accepts (.inl rfl)).elim
  | missing => exact ⟨_, rfl, Folder.write_of_no_folder plain nofun⟩
  | holding entries =>
      have free : entries.lookup (fileOf uri) ≠ some .folder := fun folder => accepts (.inr folder)
      exact ⟨_, rfl, Folder.write_of_no_folder plain free⟩

/-- A store that refuses a state is left as it is. -/
theorem save_of_refuses {store : SessionStore} {state : ViewState}
    (refuses : store.Refuses state.document)
    : ∃ fault, store.save state = (.error (.io fault), store) := by
  rcases write_of_refuses refuses with unmade | ⟨made, unwritten⟩
  · exact ⟨.alreadyExists, by simp only [save, unmade]⟩
  · exact ⟨.isADirectory, by simp only [save, made, unwritten]⟩

/-- A store that does not refuse a state has it in the file of its document, beside what other files
it had.
-/
theorem save_of_not_refuses {store : SessionStore} {state : ViewState}
    (accepts : ¬ store.Refuses state.document)
    : store.save state
      = (.ok (fileOf state.document),
          .holding (Folder.put (fileOf state.document) (.file (ViewState.format.pack state))
            (Folder.entries store))) := by
  obtain ⟨made, create, written⟩ := write_of_not_refuses accepts
  simp only [save, create, written]

/-- A mishap keeps a state from being saved, unless there is room for all of its bytes. -/
def SaveMishap.Strikes (mishap : SaveMishap) (state : ViewState) : Prop :=
  match mishap with
  | .unmade _ | .unopened _ => True
  | .cutShort room _ => room < (ViewState.format.pack state).length

/-- A state cannot be saved if the store refuses it or a mishap strikes. -/
def CannotSave (store : SessionStore) (state : ViewState) (mishap : Option SaveMishap) : Prop :=
  store.Refuses state.document ∨ ∃ struck, mishap = some struck ∧ struck.Strikes state

/-- What comes of saving a state: it is in the file of its document, or no file is touched, or only
its first bytes are in the file.  All other files are left alone.
-/
inductive SaveOutcome (store : SessionStore) (state : ViewState) (mishap : Option SaveMishap)
    : Except Failure String → SessionStore → Prop
  | saved (savable : ¬ store.CannotSave state mishap)
    : SaveOutcome store state mishap (.ok (fileOf state.document))
        (.holding (Folder.put (fileOf state.document) (.file (ViewState.format.pack state))
          (Folder.entries store)))
  | unwritten {fault} {next : SessionStore} (prevented : store.CannotSave state mishap)
    (same : ∀ name, next.find? name = store.find? name)
    : SaveOutcome store state mishap (.error (.io fault)) next
  | cutShort {fault room} (prevented : store.CannotSave state mishap)
    (short : room < (ViewState.format.pack state).length)
    : SaveOutcome store state mishap (.error (.io fault))
        (.holding (Folder.put (fileOf state.document)
          (.file ((ViewState.format.pack state).take room)) (Folder.entries store)))

/-- Saving has one of these outcomes. -/
theorem save_outcome (store : SessionStore) (state : ViewState) (mishap : Option SaveMishap)
    : SaveOutcome store state mishap (store.save state mishap).1 (store.save state mishap).2 := by
  have struck {mishap : SaveMishap} (strikes : mishap.Strikes state)
      : store.CannotSave state (some mishap) := .inr ⟨mishap, rfl, strikes⟩
  rcases mishap with _ | fault | fault | ⟨room, fault⟩
  · by_cases refuses : store.Refuses state.document
    · obtain ⟨fault, refused⟩ := save_of_refuses refuses
      rw [refused]
      exact .unwritten (.inl refuses) fun _ => rfl
    · rw [save_of_not_refuses refuses]
      exact .saved (not_or.mpr ⟨refuses, nofun⟩)
  · exact .unwritten (struck trivial) fun _ => rfl
  · cases created : store.create with
    | error other =>
        simp only [save, created]
        exact .unwritten (struck trivial) fun _ => rfl
    | ok made =>
        simp only [save, created]
        exact .unwritten (struck trivial) (Folder.find?_create created)
  · by_cases refuses : store.Refuses state.document
    · rcases write_of_refuses refuses with unmade | ⟨made, unwritten⟩
      · simp only [save, unmade]
        exact .unwritten (.inl refuses) fun _ => rfl
      · simp only [save, made, unwritten]
        exact .unwritten (.inl refuses) fun _ => rfl
    · obtain ⟨made, create, written⟩ := write_of_not_refuses refuses
      simp only [save, create, written]
      by_cases short : room < (ViewState.format.pack state).length
      · rw [if_pos short]
        exact .cutShort (struck short) short
      · rw [if_neg short, List.take_of_length_le (Nat.not_lt.mp short)]
        refine .saved (not_or.mpr ⟨refuses, ?_⟩)
        rintro ⟨_, ⟨⟩, strikes⟩
        exact short strikes

namespace SaveOutcome

variable {store next : SessionStore} {mishap : Option SaveMishap} {state : ViewState}
  {answer : Except Failure String}

/-- Saving a state fails exactly if it cannot be saved. -/
theorem fails_iff (outcome : SaveOutcome store state mishap answer next)
    : (∃ failure, answer = .error failure) ↔ store.CannotSave state mishap := by
  cases outcome with
  | saved savable => exact ⟨nofun, fun prevented => (savable prevented).elim⟩
  | unwritten prevented | cutShort prevented => exact ⟨fun _ => prevented, fun _ => ⟨_, rfl⟩⟩

/-- Saving a state leaves the files of other documents alone. -/
theorem find?_of_ne (outcome : SaveOutcome store state mishap answer next) {name : String}
    (different : name ≠ fileOf state.document)
    : next.find? name = store.find? name := by
  have kept (content : FolderEntry (List UInt8))
      : (Folder.holding (Folder.put (fileOf state.document) content (Folder.entries store))).find?
          name
        = store.find? name := by
    rw [Folder.find?_put_of_ne _ different]
    cases store <;> rfl
  cases outcome with
  | saved | cutShort => exact kept _
  | unwritten _ same => exact same name

/-- A state that was saved is in the file that is answered. -/
theorem read_of_ok {file : String} (outcome : SaveOutcome store state mishap (.ok file) next)
    : file = fileOf state.document ∧ next.read file = .ok (ViewState.format.pack state) := by
  cases outcome with
  | saved => exact ⟨rfl, Folder.read_put _ _ _⟩

/-- After a failure the file of the document is as before, or it has the first bytes of the state. -/
theorem find?_of_error {failure : Failure}
    (outcome : SaveOutcome store state mishap (.error failure) next)
    : next.find? (fileOf state.document) = store.find? (fileOf state.document)
      ∨ ∃ room,
          room < (ViewState.format.pack state).length
          ∧ next.find? (fileOf state.document)
            = some (.file ((ViewState.format.pack state).take room)) := by
  cases outcome with
  | unwritten _ same => exact .inl (same _)
  | cutShort _ short => exact .inr ⟨_, short, Folder.find?_put_self _ _ _⟩

end SaveOutcome

/-- What is loaded for a document is a state of it. -/
theorem document_of_load {store : SessionStore} {uri : String} {state : ViewState}
    (loaded : (store.load uri).1 = .ok (some state))
    : state.document = uri := by
  simp only [load] at loaded
  split at loaded
  · split at loaded
    · cases loaded
    · split at loaded
      · split at loaded
        · rename_i own
          cases loaded
          exact own
        · cases loaded
      · cases loaded
  · cases loaded

end SessionStore

end SyntaxExplorer
