import SyntaxExplorer.Proofs.Text.Boundaries
import SyntaxExplorer.Query.QueryError
import SyntaxExplorer.Text.Words

/-! Where errors are shown in the text of a query.  An error about a name is shown at the name, which
is all that stands there of characters of names; any other is shown at its offset.  Either way what is
shown lies within the text, and starts and ends between characters unless the offset itself does not.
-/

namespace SyntaxExplorer

open Text

-----------------------------------------------------------------------------------------
-- Names in a query
-----------------------------------------------------------------------------------------

/-- The name that starts at an offset of a query: the longest run of word characters, hyphens and
full stops.
-/
structure IsNameAt (query : List Char) (offset : Nat) (name : List Char) : Prop where
  within : ∃ before after, query = before ++ name ++ after ∧ byteLength before = offset
  inside : ∀ c ∈ name, c = '-' ∨ c = '.' ∨ CharacterClass.word.contains c = true
  longest
    : ∀ before run after,
        query = before ++ run ++ after
        → byteLength before = offset
        → (∀ c ∈ run, c = '-' ∨ c = '.' ∨ CharacterClass.word.contains c = true)
        → run <+: name

theorem QueryError.isNameCharacter_iff {c : Char}
    : isNameCharacter c = true
      ↔ c = '-' ∨ c = '.' ∨ CharacterClass.word.contains c = true := by
  simp [isNameCharacter, or_assoc]

/-- What stands at an offset up to the first other character is the name there: any run of such
characters from the offset on is a start of it.
-/
theorem isNameAt_takeWhile {query : String} {offset : Nat} {rest : List Char}
    (left : dropBytes? query offset = some rest)
    : IsNameAt query.toList offset (rest.takeWhile QueryError.isNameCharacter) := by
  obtain ⟨before, whole, length⟩ := dropBytes?_eq_some_iff.mp left
  refine ⟨⟨before, rest.dropWhile QueryError.isNameCharacter, ?_, length⟩, ?_, ?_⟩
  · rw [List.append_assoc, List.takeWhile_append_dropWhile, whole]
  · intro c member
    exact QueryError.isNameCharacter_iff.mp (List.all_eq_true.mp List.all_takeWhile c member)
  · intro front run after split start inside
    have same : dropBytes? query offset = some (run ++ after) :=
      dropBytes?_eq_some_iff.mpr ⟨front, by rw [split, List.append_assoc], start⟩
    obtain rfl := Option.some.inj (left.symm.trans same)
    rw [List.takeWhile_append_of_pos fun c member =>
      QueryError.isNameCharacter_iff.mpr (inside c member)]
    exact List.prefix_append _ _

/-- A name lies within the query and ends at a boundary. -/
theorem IsNameAt.bounds {query : String} {offset : Nat} {name : List Char}
    (isName : IsNameAt query.toList offset name)
    : offset + byteLength name ≤ byteLength query.toList
      ∧ isBoundary query.toList (offset + byteLength name) = true
      ∧ slice? query offset (offset + byteLength name) = some (String.ofList name) := by
  obtain ⟨before, after, whole, rfl⟩ := isName.within
  have ends : isBoundary query.toList (byteLength before + byteLength name) = true := by
    rw [whole, ← byteLength_append]
    exact isBoundary_append _ _
  refine ⟨le_of_isBoundary ends, ends, ?_⟩
  rw [← byteLength_append]
  exact slice?_of_append whole

-----------------------------------------------------------------------------------------
-- Errors in a query
-----------------------------------------------------------------------------------------

/-- How an error about a name tells the name; no other error has one. -/
def QueryErrorKind.quote? : QueryErrorKind → Option (String → String)
  | .unknownKind => some fun name => s!"Bad node name '{name}'"
  | .unknownField => some fun name => s!"Bad field name '{name}'"
  | .unknownCapture => some fun name => s!"Bad capture name @{name}"
  | .malformed | .badPredicate | .impossiblePattern | .badLanguage => none

/-- What is left of a query is sliced off without breaking off, at whatever offset. -/
theorem sliceFrom_eq (query : String) (offset : Nat)
    : Words.sliceFrom query offset = .ok ((dropBytes? query offset).map String.ofList) := by
  rw [Words.sliceFrom]
  cases left : dropBytes? query offset with
  | none => rw [dropBytes?_eq_none_iff.mp left, if_neg Bool.false_ne_true, Option.map_none]
  | some rest =>
      obtain ⟨before, whole, rfl⟩ := dropBytes?_eq_some_iff.mp left
      have boundary : isBoundary query.toList (byteLength before) = true := by
        rw [whole]
        exact isBoundary_append before rest
      have sliced := slice?_of_append (whole.trans (List.append_nil _).symm)
      rw [if_pos boundary, Words.slice, whole, sliced, Option.map_some]
      rfl

namespace QueryError

/-- The name that an error is about. -/
def nameIn (error : QueryError) (query : String) : List Char :=
  ((dropBytes? query error.offset).getD []).takeWhile isNameCharacter

/-- At a boundary the name is what stands there. -/
theorem nameIn_isNameAt {error : QueryError} {query : String}
    (boundary : isBoundary query.toList error.offset = true)
    : IsNameAt query.toList error.offset (error.nameIn query) := by
  cases left : dropBytes? query error.offset with
  | none =>
      rw [dropBytes?_eq_none_iff.mp left] at boundary
      cases boundary
  | some rest =>
      rw [nameIn, left]
      exact isNameAt_takeWhile left

/-- Inside a character and behind the query there is no name. -/
theorem nameIn_of_not_boundary {error : QueryError} {query : String}
    (inner : isBoundary query.toList error.offset = false)
    : error.nameIn query = [] := by
  rw [nameIn, dropBytes?_eq_none_iff.mpr inner]
  rfl

theorem locate_index (error : QueryError) (query : String)
    : (error.locate query).index = error.offset := by
  obtain ⟨kind, offset, message⟩ := error
  cases kind <;> rfl

/-- An error about a name is shown at all of it, and tells it. -/
theorem locate_of_quote {error : QueryError} {quote : String → String}
    (quotes : error.kind.quote? = some quote) (query : String)
    : error.locate query
      = ⟨quote (String.ofList (error.nameIn query)), error.offset,
          byteLength (error.nameIn query)⟩ := by
  obtain ⟨kind, offset, message⟩ := error
  cases kind with
  | unknownKind | unknownField | unknownCapture =>
      cases quotes
      rfl
  | malformed | badPredicate | impossiblePattern | badLanguage => cases quotes

/-- An error is shown without length if it is about no name, or has none at its offset. -/
theorem locate_length_eq_zero {error : QueryError} {query : String}
    (nameless : error.kind.quote? = none ∨ isBoundary query.toList error.offset = false)
    : (error.locate query).length = 0 := by
  cases quotes : error.kind.quote? with
  | none =>
      obtain ⟨kind, offset, message⟩ := error
      cases kind with
      | unknownKind | unknownField | unknownCapture => cases quotes
      | malformed | badPredicate | impossiblePattern | badLanguage => rfl
  | some quote =>
      have inner := nameless.resolve_left (by rw [quotes]; nofun)
      rw [locate_of_quote quotes, nameIn_of_not_boundary inner]
      rfl

/-- An error is shown at its offset, within the query if the offset is.  An error about a name at a
boundary is shown at the name that stands there, which ends at a boundary and is what the message
quotes.  Any other error, and one inside a character or behind the query, is shown without length;
what is left of the query is sliced off without breaking off, at whatever offset.
-/
theorem locate_fitsQuery (error : QueryError) (query : String)
    : let fault := error.locate query
      let stop := fault.index + fault.length
      fault.index = error.offset
      ∧ (error.offset ≤ byteLength query.toList → stop ≤ byteLength query.toList)
      ∧ (∀ quote,
          error.kind.quote? = some quote
          → isBoundary query.toList error.offset = true
          → ∃ name,
              IsNameAt query.toList error.offset name
              ∧ fault.length = byteLength name
              ∧ isBoundary query.toList stop = true
              ∧ slice? query fault.index stop = some (String.ofList name)
              ∧ fault.message = quote (String.ofList name))
      ∧ (error.kind.quote? = none ∨ isBoundary query.toList error.offset = false
          → fault.length = 0)
      ∧ Words.sliceFrom query error.offset
        = .ok ((dropBytes? query error.offset).map String.ofList) := by
  intro fault stop
  have index : fault.index = error.offset := locate_index error query
  have named (quote : String → String) (quotes : error.kind.quote? = some quote)
      : fault = ⟨quote (String.ofList (error.nameIn query)), error.offset,
          byteLength (error.nameIn query)⟩ :=
    locate_of_quote quotes query
  refine ⟨index, fun inside => ?_, fun quote quotes boundary => ?_, locate_length_eq_zero,
    sliceFrom_eq query error.offset⟩
  · by_cases nameless : error.kind.quote? = none ∨ isBoundary query.toList error.offset = false
    · have length : fault.length = 0 := locate_length_eq_zero nameless
      show fault.index + fault.length ≤ _
      rwa [index, length]
    · obtain ⟨naming, boundary⟩ := not_or.mp nameless
      obtain ⟨quote, quotes⟩ := Option.ne_none_iff_exists'.mp naming
      have isName := nameIn_isNameAt (Bool.not_eq_false _ |>.mp boundary)
      show fault.index + fault.length ≤ _
      rw [named quote quotes]
      exact isName.bounds.1
  · have isName := nameIn_isNameAt boundary
    obtain ⟨_, closed, sliced⟩ := isName.bounds
    have ends : stop = error.offset + byteLength (error.nameIn query) := by
      show fault.index + fault.length = _
      rw [named quote quotes]
    rw [ends, index]
    exact ⟨_, isName, by rw [named quote quotes], closed, sliced, by rw [named quote quotes]⟩

/-- A name with characters of several bytes is shown at all of it, and nothing inside one of these
characters, nor behind the query.
-/
theorem locate_fitsQuery_accents
    : let query := "(naïve-é.x) @a"
      let error : QueryError := { kind := .unknownKind, offset := 1 }
      let inner : QueryError := { kind := .unknownKind, offset := 4 }
      let beyond : QueryError := { kind := .unknownKind, offset := 18446744073709551615 }
      isBoundary query.toList error.offset = true
      ∧ isBoundary query.toList inner.offset = false
      ∧ error.locate query = ⟨"Bad node name 'naïve-é.x'", 1, 11⟩
      ∧ IsNameAt query.toList 1 "naïve-é.x".toList
      ∧ (inner.locate query).index + (inner.locate query).length ≤ byteLength query.toList
      ∧ (inner.locate query).length = 0
      ∧ Words.sliceFrom query beyond.offset = .ok none := by
  intro query error inner beyond
  have boundary : isBoundary query.toList error.offset = true := by decide
  have inside : isBoundary query.toList inner.offset = false := by decide
  have shown : error.locate query = ⟨"Bad node name 'naïve-é.x'", 1, 11⟩ := by decide +kernel
  have written : slice? query 1 12 = some "naïve-é.x" := by decide +kernel
  obtain ⟨_, _, named, _, _⟩ := locate_fitsQuery error query
  obtain ⟨_, within, _, nameless, _⟩ := locate_fitsQuery inner query
  obtain ⟨_, _, _, _, sliced⟩ := locate_fitsQuery beyond query
  obtain ⟨name, isName, _, _, slice, _⟩ := named _ rfl boundary
  rw [shown] at slice
  have same : name = "naïve-é.x".toList := by
    rw [Option.some.inj (written.symm.trans slice), String.toList_ofList]
  refine ⟨boundary, inside, shown, same ▸ isName, within (by decide), nameless (.inr inside), ?_⟩
  rw [sliced]
  have nothing : dropBytes? query beyond.offset = none := by
    rw [dropBytes?_eq_none_iff]
    decide +kernel
  rw [nothing]
  rfl

end QueryError

end SyntaxExplorer
