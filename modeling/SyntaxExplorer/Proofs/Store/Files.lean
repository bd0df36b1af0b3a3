import SyntaxExplorer.Proofs.Store.Entries
import SyntaxExplorer.Store.Folder

/-! Single files of a folder: what stands under a name once a file is written, removed or renamed, and
that all other names are left alone.
-/

namespace SyntaxExplorer

namespace Folder

variable {α : Type} {folder next : Folder α} {name other : String} {content : α}

/-- What is read under a name is the file that stands there. -/
theorem read_eq_ok_iff : folder.read name = .ok content ↔ folder.find? name = some (.file content) := by
  cases folder with
  | missing | blocked => simp [read, find?]
  | holding entries =>
      simp only [read, find?]
      cases entries.lookup name with
      | none => simp
      | some entry => cases entry <;> simp

/-- What was put under a name stands there. -/
theorem find?_put_self (entries : List (String × FolderEntry α)) (name : String)
    (entry : FolderEntry α)
    : (Folder.holding (put name entry entries)).find? name = some entry :=
  List.lookup_cons_self

/-- What is put under a name leaves all others alone. -/
theorem find?_put_of_ne (entries : List (String × FolderEntry α)) (different : other ≠ name)
    (entry : FolderEntry α)
    : (Folder.holding (put name entry entries)).find? other = (holding entries).find? other := by
  have skipped : (other == name) = false := beq_eq_false_iff_ne.mpr different
  rw [find?, Folder.put, List.lookup_cons, skipped]
  exact lookup_filter_of_ne entries different

/-- Making a folder leaves alone what is in it. -/
theorem find?_create (made : folder.create = .ok next) (name : String)
    : next.find? name = folder.find? name := by
  cases folder with
  | blocked => cases made
  | missing | holding =>
      cases made
      rfl

/-- A file is written in the place of what stood under its name. -/
theorem holding_of_write {entries : List (String × FolderEntry α)}
    (written : (Folder.holding entries).write name content = .ok next)
    : next = .holding (put name (.file content) entries) := by
  simp only [write] at written
  split at written
  · cases written
  · split at written
    · cases written
    · exact (Except.ok.inj written).symm

/-- Writing a file leaves all others alone. -/
theorem find?_write_of_ne (different : other ≠ name)
    (written : folder.write name content = .ok next)
    : next.find? other = folder.find? other := by
  cases folder with
  | missing | blocked => cases written
  | holding entries =>
      rw [holding_of_write written]
      exact find?_put_of_ne entries different _

/-- A file that stands under a name can be removed, and then nothing stands there. -/
theorem remove_of_file (found : folder.find? name = some (.file content))
    : ∃ next, folder.remove name = .ok next ∧ next.find? name = none := by
  cases folder with
  | missing | blocked => cases found
  | holding entries =>
      have file : entries.lookup name = some (.file content) := found
      refine ⟨.holding (entries.filter (·.1 != name)), ?_, lookup_filter_self entries name⟩
      simp only [remove, file]

/-- A file is removed from a folder, with all that stands under its name. -/
theorem holding_of_remove (removed : folder.remove name = .ok next)
    : ∃ entries, folder = .holding entries ∧ next = .holding (entries.filter (·.1 != name)) := by
  cases folder with
  | missing | blocked => cases removed
  | holding entries =>
      simp only [remove] at removed
      split at removed
      · exact ⟨entries, rfl, (Except.ok.inj removed).symm⟩
      · cases removed
      · cases removed

/-- Nothing stands under the name of a file that was removed. -/
theorem find?_remove_self (removed : folder.remove name = .ok next) : next.find? name = none := by
  obtain ⟨entries, rfl, rfl⟩ := holding_of_remove removed
  exact lookup_filter_self entries name

/-- Removing a file leaves all others alone. -/
theorem find?_remove_of_ne (different : other ≠ name) (removed : folder.remove name = .ok next)
    : next.find? other = folder.find? other := by
  obtain ⟨entries, rfl, rfl⟩ := holding_of_remove removed
  exact lookup_filter_of_ne entries different

/-- A file that was written stands under its name. -/
theorem find?_write_self (written : folder.write name content = .ok next)
    : next.find? name = some (.file content) := by
  cases folder with
  | missing | blocked => cases written
  | holding entries =>
      rw [holding_of_write written]
      exact find?_put_self entries name _

/-- Renaming a file is reading it, removing it and writing it under its new name. -/
theorem steps_of_rename {newName : String} (renamed : folder.rename name newName = .ok next)
    : ∃ content removed,
        folder.find? name = some (.file content)
        ∧ folder.remove name = .ok removed
        ∧ removed.write newName content = .ok next := by
  cases read : folder.read name with
  | error fault =>
      rw [rename, read] at renamed
      cases renamed
  | ok content =>
      have found := read_eq_ok_iff.mp read
      obtain ⟨removed, done, _⟩ := remove_of_file found
      refine ⟨content, removed, found, done, ?_⟩
      simpa only [rename, read, done, bind, Except.bind] using renamed

/-- A file that was renamed stands under its new name. -/
theorem find?_rename_self {newName : String} (renamed : folder.rename name newName = .ok next)
    : next.find? newName = folder.find? name := by
  obtain ⟨content, removed, found, _, written⟩ := steps_of_rename renamed
  rw [find?_write_self written, found]

/-- Renaming a file leaves all names alone but its two. -/
theorem find?_rename_of_ne {newName : String} (renamed : folder.rename name newName = .ok next)
    (old : other ≠ name) (new : other ≠ newName)
    : next.find? other = folder.find? other := by
  obtain ⟨content, removed, _, done, written⟩ := steps_of_rename renamed
  exact (find?_write_of_ne new written).trans (find?_remove_of_ne old done)

end Folder

end SyntaxExplorer
