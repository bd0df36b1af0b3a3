/-! Histories: what happened in one and was not undone since.  The last entry of a history either makes
it happen, or leaves it to the entries before, or undoes it.
-/

namespace SyntaxExplorer

variable {α : Type}

/-- In a history there is an entry that counts after those before it, and no later one undoes it. -/
def Since (counts : List α → α → Prop) (undoes : α → Prop) (history : List α) : Prop :=
  ∃ earlier entry later,
    history = earlier ++ entry :: later
    ∧ counts earlier entry
    ∧ ∀ other ∈ later, ¬ undoes other

/-- Nothing happened yet. -/
theorem not_since_nil {counts : List α → α → Prop} {undoes : α → Prop} : ¬ Since counts undoes [] := by
  intro since
  obtain ⟨earlier, entry, later, split, _⟩ := since
  simp at split

/-- The last entry of a history counts, or it undoes nothing that counted before. -/
theorem since_concat_iff {counts : List α → α → Prop} {undoes : α → Prop} {history : List α}
    {last : α}
    : Since counts undoes (history ++ [last])
      ↔ counts history last ∨ (¬ undoes last ∧ Since counts undoes history) := by
  constructor
  · intro since
    obtain ⟨earlier, entry, later, split, counted, kept⟩ := since
    rcases later.eq_nil_or_concat with rfl | ⟨before, final, rfl⟩
    · obtain ⟨same, lastSame⟩ := List.append_inj' split rfl
      rw [same, List.singleton_inj.mp lastSame]
      exact Or.inl counted
    · rw [List.concat_eq_append] at split kept
      rw [← List.cons_append, ← List.append_assoc] at split
      obtain ⟨rest, same⟩ := List.append_inj' split rfl
      obtain rfl := List.singleton_inj.mp same
      refine Or.inr ⟨kept last (by simp), earlier, entry, before, rest, counted, ?_⟩
      intro other member
      exact kept other (List.mem_append_left _ member)
  · intro cases
    rcases cases with counted | ⟨idle, earlier, entry, later, rfl, counted, kept⟩
    · exact ⟨history, last, [], rfl, counted, by simp⟩
    · refine ⟨earlier, entry, later ++ [last], by simp, counted, ?_⟩
      intro other member
      rcases List.mem_append.mp member with before | final
      · exact kept other before
      · rw [List.mem_singleton.mp final]
        exact idle

end SyntaxExplorer
