import SyntaxExplorer.Proofs.Text.Positions
import SyntaxExplorer.Text.Change

/-! What applying changes does to a text, and what the edits say that it hands to a tree.
An edit describes the change of the text exactly where the change names its own positions.
-/

namespace SyntaxExplorer

open Text

/-- A computation in two steps succeeds where both steps do. -/
theorem bind_eq_ok_iff {ε α β : Type} {first : Except ε α} {next : α → Except ε β} {result : β}
    : first >>= next = .ok result ↔ ∃ value, first = .ok value ∧ next value = .ok result := by
  cases first with
  | error fault => simp [bind, Except.bind]
  | ok value => simp [bind, Except.bind]

/-- An edit describes how one text became another: it has the extents of what stays before the
change, of that with what was replaced, and of that with what was inserted.
-/
def TreeEdit.Describes (edit : TreeEdit) (old new : String) : Prop :=
  ∃ before replaced inserted after,
    old.toList = before ++ replaced ++ after
    ∧ new.toList = before ++ inserted ++ after
    ∧ edit = ⟨.ofChars before, .ofChars (before ++ replaced), .ofChars (before ++ inserted)⟩

/-- Edits describe, one after another, how a text became another. -/
inductive TreeEdit.Describe : List TreeEdit → String → String → Prop
  | nil (text : String) : Describe [] text text
  | cons {edit edits old between new} (first : TreeEdit.Describes edit old between)
    (later : Describe edits between new)
    : Describe (edit :: edits) old new

namespace TextChange

/-- The bytes of a text with the span of a change replaced. -/
def splice (source : List UInt8) (change : TextChange) : List UInt8 :=
  source.take change.offset ++ bytes change.inserted
    ++ source.drop (change.offset + change.length)

/-- A change cuts a text in what stays before it, what it replaces and what stays after it. -/
structure Cuts (change : TextChange) (text : String) (before replaced after : List Char)
    : Prop where
  whole : text.toList = before ++ replaced ++ after
  offset : byteLength before = change.offset
  length : byteLength replaced = change.length

/-- The positions of a change are those that the text has at its offsets. -/
def IsPositioned (change : TextChange) (text : String) : Prop :=
  change.start = (LineIndex.ofText text).positionAt change.offset
  ∧ change.stop = (LineIndex.ofText text).positionAt (change.offset + change.length)

/-- The edit that a change hands to a tree if it follows some characters that stay. -/
def editBehind (change : TextChange) (before : List Char) : TreeEdit where
  start := ⟨change.offset, change.start⟩
  oldStop := ⟨change.offset + change.length, change.stop⟩
  newStop := .ofChars (before ++ change.inserted.toList)

/-- The changes that an editor makes of spans are the positioned ones. -/
theorem isPositioned_iff_eq_ofSpan {change : TextChange} {text : String}
    : change.IsPositioned text
      ↔ change = ofSpan text change.offset change.length change.inserted := by
  cases change
  simp [IsPositioned, ofSpan]

namespace Cuts

variable {change : TextChange} {text : String} {before replaced after : List Char}

/-- The bytes before the replaced span end with it. -/
theorem stop (cut : change.Cuts text before replaced after)
    : byteLength (before ++ replaced) = change.offset + change.length := by
  rw [byteLength_append, cut.offset, cut.length]

/-- The bytes up to the end of the inserted text. -/
theorem newStop (cut : change.Cuts text before replaced after)
    : byteLength (before ++ change.inserted.toList) = change.newStop := by
  rw [byteLength_append, cut.offset, TextChange.newStop]

/-- The line index has the start of the replaced span where what stays before it ends. -/
theorem positionAt_offset (cut : change.Cuts text before replaced after)
    : (LineIndex.ofText text).positionAt change.offset = (Extent.ofChars before).point := by
  rw [← cut.offset]
  exact LineIndex.positionAt_eq_point (by rw [cut.whole, List.append_assoc])

/-- The line index has the end of the replaced span where its characters end. -/
theorem positionAt_stop (cut : change.Cuts text before replaced after)
    : (LineIndex.ofText text).positionAt (change.offset + change.length)
      = (Extent.ofChars (before ++ replaced)).point := by
  rw [← cut.stop]
  exact LineIndex.positionAt_eq_point cut.whole

/-- Two boundaries in order cut the text. -/
theorem of_splits {rest front : List Char}
    (first : splitAt? text.toList change.offset = some (before, rest))
    (second : splitAt? text.toList (change.offset + change.length) = some (front, after))
    : ∃ replaced, change.Cuts text before replaced after := by
  obtain ⟨whole, offset⟩ := splitAt?_eq_some_iff.mp first
  obtain ⟨split, stop⟩ := splitAt?_eq_some_iff.mp second
  rcases List.append_eq_append_iff.mp (whole.symm.trans split) with
    ⟨replaced, rfl, _⟩ | ⟨surplus, rfl, _⟩
  · rw [byteLength_append] at stop
    exact ⟨replaced, split, offset, by omega⟩
  · rw [byteLength_append] at offset
    have none : surplus = [] := byteLength_eq_zero_iff.mp (by omega)
    subst none
    simp only [List.append_nil]
    exact ⟨[], by simpa using split, by omega, by simp only [byteLength]; omega⟩

/-- A cut gives the two boundaries between its parts. -/
theorem splits (cut : change.Cuts text before replaced after)
    : splitAt? text.toList change.offset = some (before, replaced ++ after)
      ∧ splitAt? text.toList (change.offset + change.length)
        = some (before ++ replaced, after) := by
  constructor
  · exact splitAt?_eq_some_iff.mpr ⟨by rw [cut.whole, List.append_assoc], cut.offset⟩
  · exact splitAt?_eq_some_iff.mpr ⟨cut.whole, cut.stop⟩

/-- The bytes of the new text are the old ones, spliced. -/
theorem bytes_eq_splice (cut : change.Cuts text before replaced after)
    : bytes (String.ofList (before ++ change.inserted.toList ++ after))
      = splice (bytes text) change := by
  have encoded : bytes text
      = before.flatMap String.utf8EncodeChar
        ++ (replaced.flatMap String.utf8EncodeChar ++ after.flatMap String.utf8EncodeChar) := by
    rw [bytes_eq_flatMap, cut.whole]
    simp only [List.flatMap_append, List.append_assoc]
  have kept : (bytes text).take change.offset = before.flatMap String.utf8EncodeChar := by
    rw [encoded, ← cut.offset, ← length_encode, List.take_left']
    rfl
  have dropped : (bytes text).drop (change.offset + change.length)
      = after.flatMap String.utf8EncodeChar := by
    rw [encoded, ← List.append_assoc, ← List.flatMap_append, ← cut.stop, ← length_encode,
      List.drop_left']
    rfl
  rw [splice, kept, dropped, bytes_eq_flatMap, bytes_eq_flatMap, String.toList_ofList]
  simp only [List.flatMap_append]

end Cuts

/-- The edit of a positioned change has the extents of what it cuts. -/
theorem Cuts.editBehind_eq {change : TextChange} {text : String}
    {before replaced after : List Char} (cut : change.Cuts text before replaced after)
    (positioned : change.IsPositioned text)
    : change.editBehind before
      = ⟨.ofChars before, .ofChars (before ++ replaced),
          .ofChars (before ++ change.inserted.toList)⟩ := by
  rw [editBehind, positioned.1, positioned.2, cut.positionAt_offset, cut.positionAt_stop,
    ← cut.stop, ← cut.offset]
  rfl

/-- The edit of a positioned change describes it: each of its extents is read off the text that
it counts in.
-/
theorem Cuts.describes {change : TextChange} {text : String} {before replaced after : List Char}
    (cut : change.Cuts text before replaced after) (positioned : change.IsPositioned text)
    : (change.editBehind before).Describes text
        (String.ofList (before ++ change.inserted.toList ++ after)) :=
  ⟨before, replaced, change.inserted.toList, after, cut.whole, String.toList_ofList,
    cut.editBehind_eq positioned⟩

/-- A change that cuts the text within the bound of offsets hands on its edit and the new text,
provided that the edit is valid.
-/
theorem Cuts.apply {change : TextChange} {text : String} {before replaced after : List Char}
    (cut : change.Cuts text before replaced after)
    (bounded : change.offset + change.length < offsetBound)
    : change.apply text
      = (change.editBehind before).validate.bind fun _ =>
          .ok (change.editBehind before,
            String.ofList (before ++ change.inserted.toList ++ after)) := by
  have within : ¬ byteLength text.toList < change.offset + change.length := by
    rw [cut.whole, byteLength_append, cut.stop]
    omega
  have newStop : (LineIndex.ofChars (before ++ change.inserted.toList ++ after)).positionAt
        change.newStop
      = (Extent.ofChars (before ++ change.inserted.toList)).point := by
    rw [← cut.newStop]
    exact LineIndex.positionAt_ofChars_append _ after
  have edit : change.editBehind before
      = ⟨⟨change.offset, change.start⟩, ⟨change.offset + change.length, change.stop⟩,
          ⟨change.newStop, (Extent.ofChars (before ++ change.inserted.toList)).point⟩⟩ := by
    rw [← cut.newStop]
    rfl
  simp only [TextChange.apply, if_neg (Nat.not_le.mpr bounded), if_neg within, cut.splits.1,
    cut.splits.2, newStop, ← edit]
  rfl

/-- A change that applies cuts the text within the bound of offsets. -/
theorem cuts_of_apply {change : TextChange} {text next : String} {edit : TreeEdit}
    (applied : change.apply text = .ok (edit, next))
    : change.offset + change.length < offsetBound
      ∧ ∃ before replaced after, change.Cuts text before replaced after := by
  simp only [TextChange.apply] at applied
  split at applied
  · cases applied
  · rename_i bounded
    refine ⟨Nat.not_le.mp bounded, ?_⟩
    split at applied
    · cases applied
    · split at applied
      · rename_i first second
        exact ⟨_, (Cuts.of_splits first second).imp fun _ cut => ⟨_, cut⟩⟩
      · cases applied

/-- A change applies exactly if it cuts the text within the bound of offsets and if its edit is
valid; then the inserted text takes the place of the replaced one.
-/
theorem apply_eq_ok_iff {change : TextChange} {text next : String} {edit : TreeEdit}
    : change.apply text = .ok (edit, next)
      ↔ ∃ before replaced after,
          change.Cuts text before replaced after
          ∧ change.offset + change.length < offsetBound
          ∧ (change.editBehind before).validate = .ok ()
          ∧ edit = change.editBehind before
          ∧ next = String.ofList (before ++ change.inserted.toList ++ after) := by
  constructor
  · intro applied
    obtain ⟨bounded, before, replaced, after, cut⟩ := cuts_of_apply applied
    rw [cut.apply bounded] at applied
    obtain ⟨_, valid, same⟩ := bind_eq_ok_iff.mp applied
    cases same
    exact ⟨before, replaced, after, cut, bounded, valid, rfl, rfl⟩
  · rintro ⟨before, replaced, after, cut, bounded, valid, rfl, rfl⟩
    rw [cut.apply bounded, valid]
    rfl

/-- Applying a change splices the bytes of the text. -/
theorem bytes_of_apply {change : TextChange} {text next : String} {edit : TreeEdit}
    (applied : change.apply text = .ok (edit, next))
    : bytes next = splice (bytes text) change := by
  obtain ⟨before, replaced, after, cut, _, _, _, rfl⟩ := apply_eq_ok_iff.mp applied
  exact cut.bytes_eq_splice

/-- Only valid edits are handed on. -/
theorem valid_of_apply {change : TextChange} {text next : String} {edit : TreeEdit}
    (applied : change.apply text = .ok (edit, next))
    : edit.validate = .ok () := by
  obtain ⟨_, _, _, _, _, valid, rfl, _⟩ := apply_eq_ok_iff.mp applied
  exact valid

/-- A positioned change that applies hands on an edit that describes it. -/
theorem describes_of_apply {change : TextChange} {text next : String} {edit : TreeEdit}
    (applied : change.apply text = .ok (edit, next)) (positioned : change.IsPositioned text)
    : edit.Describes text next := by
  obtain ⟨before, replaced, after, cut, _, _, rfl, rfl⟩ := apply_eq_ok_iff.mp applied
  exact cut.describes positioned

/-- Each change of a batch is positioned in the text that the change before it left.  Behind a
change that does not apply there is no such text.
-/
def ArePositioned : List TextChange → String → Prop
  | [], _ => True
  | change :: rest, text =>
      change.IsPositioned text
      ∧ ∀ edit next, change.apply text = .ok (edit, next) → ArePositioned rest next

/-- A batch applies where its first change does and the others apply to what that leaves. -/
theorem applyEach_cons_eq_ok_iff {change : TextChange} {rest : List TextChange}
    {text last : String} {edits : List TreeEdit}
    : applyEach (change :: rest) text = .ok (edits, last)
      ↔ ∃ edit next later,
          change.apply text = .ok (edit, next)
          ∧ applyEach rest next = .ok (later, last)
          ∧ edits = edit :: later := by
  simp only [applyEach, bind_eq_ok_iff, Prod.exists]
  constructor
  · rintro ⟨edit, next, applied, later, _, others, same⟩
    cases same
    exact ⟨edit, next, later, applied, others, rfl⟩
  · rintro ⟨edit, next, later, applied, others, rfl⟩
    exact ⟨edit, next, applied, later, last, others, rfl⟩

/-- A batch splices the bytes of the text once for each change, by induction over the batch. -/
theorem bytes_of_applyEach {changes : List TextChange} {text last : String}
    {edits : List TreeEdit} (applied : applyEach changes text = .ok (edits, last))
    : bytes last = changes.foldl splice (bytes text) := by
  induction changes generalizing text edits with
  | nil =>
      cases applied
      rfl
  | cons change rest ih =>
      obtain ⟨edit, next, later, first, others, _⟩ := applyEach_cons_eq_ok_iff.mp applied
      rw [List.foldl_cons, ← bytes_of_apply first]
      exact ih others

/-- A batch hands on valid edits only, by induction over the batch. -/
theorem valid_of_applyEach {changes : List TextChange} {text last : String}
    {edits : List TreeEdit} (applied : applyEach changes text = .ok (edits, last))
    : ∀ edit ∈ edits, edit.validate = .ok () := by
  induction changes generalizing text edits with
  | nil =>
      cases applied
      simp
  | cons change rest ih =>
      obtain ⟨edit, next, later, first, others, rfl⟩ := applyEach_cons_eq_ok_iff.mp applied
      exact List.forall_mem_cons.mpr ⟨valid_of_apply first, ih others⟩

/-- The edits of a positioned batch describe how it changes the text, by induction over the
batch: each is made against the text that the next one starts from.
-/
theorem describe_of_applyEach {changes : List TextChange} {text last : String}
    {edits : List TreeEdit} (applied : applyEach changes text = .ok (edits, last))
    (positioned : ArePositioned changes text)
    : TreeEdit.Describe edits text last := by
  induction changes generalizing text edits with
  | nil =>
      cases applied
      exact .nil last
  | cons change rest ih =>
      obtain ⟨edit, next, later, first, others, rfl⟩ := applyEach_cons_eq_ok_iff.mp applied
      exact .cons (describes_of_apply first positioned.1)
        (ih others (positioned.2 edit next first))

end TextChange

end SyntaxExplorer
