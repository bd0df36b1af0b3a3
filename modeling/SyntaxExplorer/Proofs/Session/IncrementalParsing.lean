import SyntaxExplorer.Proofs.Session.CommentLines

/-! The tree of a session is the one that parsing its text from scratch gives, after any run.
Of the engine only this is assumed: a tree that edits carried along exactly what happened to its
text does not change what parsing gives.
-/

namespace SyntaxExplorer

open Text

variable {Tree Query : Type}

/-- Parsing a text with a tree of an earlier text gives what parsing from scratch gives, provided
that the tree was carried by edits that describe how the one text became the other.
-/
def Engine.ReparsesExactly (engine : Engine Tree Query) : Prop :=
  ∀ old new edits,
    TreeEdit.Describe edits old new
    → (engine.parse new (some (edits.foldl engine.edit (engine.parse old none).tree))).tree
      = (engine.parse new none).tree

namespace Session

/-- The changes of each call are positioned in the texts that they are made in. -/
def Positioned (session : Session Tree Query) : List Call → Prop
  | [] => True
  | call :: rest =>
      (∀ changes, call.batch? = some changes → TextChange.ArePositioned changes session.text)
      ∧ (session.handle call).2.Positioned rest

/-- A session stands where some batches of changes lead from a first text: its text is spliced
from their changes, its tree is that of its text, and each batch that is not empty made it one
generation older.
-/
structure Tracks (session : Session Tree Query) (grammar : LoadedGrammar Tree Query)
    (first : String) (batches : List (List TextChange))
    : Prop where
  sameGrammar : session.grammar = grammar
  spliced : bytes session.text = batches.flatten.foldl TextChange.splice (bytes first)
  parsed : session.tree = (grammar.engine.parse session.text none).tree
  counted : session.generation = (batches.filter (· ≠ [])).length

/-- A session starts where no batch has led yet. -/
theorem Started.tracks {text : String} {grammar : LoadedGrammar Tree Query} {matchLimit : Nat}
    {session : Session Tree Query} (started : Started text grammar matchLimit session)
    : session.Tracks grammar text [] := by
  obtain ⟨state, rfl⟩ := started.eq_refresh
  exact ⟨rfl, rfl, rfl, rfl⟩

/-- A batch of positioned changes that apply takes a session where it leads.  The edits describe
the way there from the text of the tree, so the engine parses as it would from scratch.
-/
theorem Tracks.goOver {session : Session Tree Query} {grammar : LoadedGrammar Tree Query}
    {first : String} {batches : List (List TextChange)}
    (tracks : session.Tracks grammar first batches) (exact : grammar.engine.ReparsesExactly)
    {changes : List TextChange} {edits : List TreeEdit} {text : String}
    (some : changes ≠ [])
    (applied : TextChange.applyEach changes session.text = .ok (edits, text))
    (positioned : TextChange.ArePositioned changes session.text)
    : (session.goOver edits text).Tracks grammar first (batches ++ [changes]) where
  sameGrammar := tracks.sameGrammar
  spliced := by
    rw [List.flatten_append, List.foldl_append, ← tracks.spliced, List.flatten_singleton]
    exact TextChange.bytes_of_applyEach applied
  parsed := by
    have described := TextChange.describe_of_applyEach applied positioned
    have parsed := exact session.text text edits described
    rw [← tracks.parsed, ← tracks.sameGrammar] at parsed
    rw [← tracks.sameGrammar]
    exact parsed
  counted := by
    rw [List.filter_append, List.length_append, ← tracks.counted]
    simp [Session.goOver, some]

/-- What a session tracks does not hang on what it shows or searches. -/
theorem Tracks.of_same {session next : Session Tree Query}
    {grammar : LoadedGrammar Tree Query} {first : String} {batches : List (List TextChange)}
    (tracks : session.Tracks grammar first batches)
    (same : next.text = session.text ∧ next.tree = session.tree
      ∧ next.generation = session.generation ∧ next.grammar = session.grammar)
    : next.Tracks grammar first batches := by
  obtain ⟨text, tree, generation, kept⟩ := same
  refine ⟨kept.trans tracks.sameGrammar, ?_, ?_, ?_⟩
  · rw [text]
    exact tracks.spliced
  · rw [text, tree]
    exact tracks.parsed
  · rw [generation]
    exact tracks.counted

/-- Each call takes a session where its batch leads, or leaves it where it is: there are only
the outcomes of a batch to look at, since no other call has one.
-/
theorem Tracks.handle {session : Session Tree Query} {grammar : LoadedGrammar Tree Query}
    {first : String} {batches : List (List TextChange)}
    (tracks : session.Tracks grammar first batches) (exact : grammar.engine.ReparsesExactly)
    {call : Call}
    (positioned
      : ∀ changes, call.batch? = some changes
        → TextChange.ArePositioned changes session.text)
    : (session.handle call).2.Tracks grammar first
        (batches ++ accepted [(call, (session.handle call).1)]) := by
  cases batch : call.batch? with
  | none =>
      have none : accepted [(call, (session.handle call).1)] = [] := by
        cases answered : (session.handle call).1 <;> simp [accepted, batch]
      rw [none, List.append_nil]
      exact tracks.of_same (handle_of_no_batch batch)
  | some changes =>
      obtain rfl := Call.batch?_eq_some_iff.mp batch
      have outcome := session.changeText_outcome changes
      simp only [Session.handle, Session.handleEvent]
      generalize session.changeText changes = result at outcome
      obtain ⟨answer, next⟩ := result
      cases outcome with
      | empty none =>
          subst none
          refine ⟨tracks.sameGrammar, ?_, tracks.parsed, ?_⟩
          · rw [List.flatten_append]
            simpa [Session.accepted, Call.batch?] using tracks.spliced
          · simpa [Session.accepted, Call.batch?] using tracks.counted
      | rejected some failed => simpa [Session.accepted] using tracks
      | accepted some applied =>
          have reached := tracks.goOver exact some applied (positioned changes rfl)
          obtain ⟨queries, colors, captures, same⟩ :=
            (session.goOver _ _).refresh.2.requery_keeps
          exact reached.of_same ⟨by rw [same]; rfl, by rw [same]; rfl, by rw [same]; rfl,
            by rw [same]; rfl⟩

/-- A run takes a session where the batches that it accepts lead, by induction over the calls. -/
theorem Tracks.after {session : Session Tree Query} {grammar : LoadedGrammar Tree Query}
    {first : String} {batches : List (List TextChange)}
    (tracks : session.Tracks grammar first batches) (exact : grammar.engine.ReparsesExactly)
    {calls : List Call} (positioned : session.Positioned calls)
    : (session.after calls).Tracks grammar first
        (batches ++ accepted (session.history calls)) := by
  induction calls generalizing session batches with
  | nil =>
      rw [history, accepted, List.filterMap_nil, List.append_nil]
      exact tracks
  | cons call rest ih =>
      have next := ih (tracks.handle exact positioned.1) positioned.2
      have split : accepted (session.history (call :: rest))
          = accepted [(call, (session.handle call).1)]
            ++ accepted ((session.handle call).2.history rest) :=
        List.filterMap_append (l := [(call, (session.handle call).1)])
      rw [split, ← List.append_assoc]
      exact next

/-- A batch is answered without a failure exactly if its changes apply one after another. -/
theorem handle_textChanged_eq_ok_iff {session : Session Tree Query}
    {changes : List TextChange}
    : (∃ events, (session.handle (.event (.textChanged changes))).1 = .ok events)
      ↔ ∃ edits text, TextChange.applyEach changes session.text = .ok (edits, text) := by
  have outcome := session.changeText_outcome changes
  simp only [handle, handleEvent]
  generalize session.changeText changes = result at outcome ⊢
  obtain ⟨answer, next⟩ := result
  cases outcome with
  | empty none =>
      subst none
      exact ⟨fun _ => ⟨[], _, rfl⟩, fun _ => ⟨[], rfl⟩⟩
  | rejected _ failed => simp [failed]
  | accepted _ applied => exact ⟨fun _ => ⟨_, _, applied⟩, fun _ => ⟨_, rfl⟩⟩

/-- A batch of changes that apply leads to the text that they lead to. -/
theorem text_handle_textChanged {session : Session Tree Query} {changes : List TextChange}
    {edits : List TreeEdit} {text : String}
    (applied : TextChange.applyEach changes session.text = .ok (edits, text))
    : (session.handle (.event (.textChanged changes))).2.text = text := by
  have outcome := session.changeText_outcome changes
  simp only [handle, handleEvent]
  generalize session.changeText changes = result at outcome ⊢
  obtain ⟨answer, next⟩ := result
  cases outcome with
  | empty none =>
      subst none
      cases applied
      rfl
  | rejected _ failed => simp [failed] at applied
  | accepted _ reached =>
      cases applied.symm.trans reached
      obtain ⟨queries, colors, captures, same⟩ :=
        (session.goOver edits text).refresh.2.requery_keeps
      simp only [same]
      rfl

/-- Some changes, each in a batch of its own. -/
def apart (changes : List TextChange) : List Call :=
  changes.map fun change => .event (.textChanged [change])

/-- Positioned changes that apply one after another do so in batches of their own, and lead to the
same text, by induction over the changes.
-/
theorem after_apart {session : Session Tree Query} {changes : List TextChange}
    {edits : List TreeEdit} {text : String}
    (applied : TextChange.applyEach changes session.text = .ok (edits, text))
    (positioned : TextChange.ArePositioned changes session.text)
    : session.Positioned (apart changes) ∧ (session.after (apart changes)).text = text := by
  induction changes generalizing session edits with
  | nil =>
      cases applied
      exact ⟨trivial, rfl⟩
  | cons change rest ih =>
      obtain ⟨edit, next, later, first, others, _⟩ :=
        TextChange.applyEach_cons_eq_ok_iff.mp applied
      have alone : TextChange.applyEach [change] session.text = .ok ([edit], next) :=
        TextChange.applyEach_cons_eq_ok_iff.mpr ⟨edit, next, [], first, rfl, rfl⟩
      have reached := text_handle_textChanged alone
      obtain ⟨positionedRest, last⟩ := ih (reached.symm ▸ others)
        (reached.symm ▸ positioned.2 edit next first)
      refine ⟨⟨?_, positionedRest⟩, last⟩
      intro batch same
      obtain rfl : [change] = batch := Option.some.inj same
      exact ⟨positioned.1, fun _ _ _ => trivial⟩

/-- Whatever requests and events a session has handled, its text is the first one with the
changes of the accepted batches spliced in, its tree is what parsing that text from scratch gives,
and its generation counts the accepted batches that were not empty.  From there, a batch leads to
the same text and tree as its changes do in batches of their own.
-/
theorem after_parsesFromScratch {text : String} {grammar : LoadedGrammar Tree Query}
    {matchLimit : Nat} {session : Session Tree Query}
    (exact : grammar.engine.ReparsesExactly)
    (started : Started text grammar matchLimit session)
    {calls : List Call} (positioned : session.Positioned calls)
    : let last := session.after calls
      let batches := accepted (session.history calls)
      bytes last.text = batches.flatten.foldl TextChange.splice (bytes text)
      ∧ last.tree = (grammar.engine.parse last.text none).tree
      ∧ last.generation = (batches.filter (· ≠ [])).length
      ∧ ∀ changes,
          TextChange.ArePositioned changes last.text
          → (∃ events, (last.handle (.event (.textChanged changes))).1 = .ok events)
          → let together := (last.handle (.event (.textChanged changes))).2
            let singly := last.after (apart changes)
            singly.text = together.text ∧ singly.tree = together.tree := by
  intro last batches
  have tracks := started.tracks.after exact positioned
  refine ⟨tracks.spliced, tracks.parsed, tracks.counted, ?_⟩
  intro changes placed answered together singly
  obtain ⟨edits, reached, applied⟩ := handle_textChanged_eq_ok_iff.mp answered
  obtain ⟨placedApart, textApart⟩ := after_apart applied placed
  have togetherParsed : together.tree = (grammar.engine.parse together.text none).tree := by
    refine (tracks.handle exact ?_).parsed
    intro batch same
    obtain rfl : changes = batch := Option.some.inj same
    exact placed
  have singlyParsed : singly.tree = (grammar.engine.parse singly.text none).tree :=
    (tracks.after exact placedApart).parsed
  have sameText : singly.text = together.text :=
    textApart.trans (text_handle_textChanged applied).symm
  exact ⟨sameText, by rw [singlyParsed, togetherParsed, sameText]⟩

end Session

-----------------------------------------------------------------------------------------
-- A parser that takes over what it read before
-----------------------------------------------------------------------------------------

/-- The tree of a text: its characters, and how many bytes of them, from the start, no edit has
touched since they were read.
-/
structure KeptText where
  read : List Char
  untouched : Nat

namespace KeptText

/-- The tree of characters that were just read. -/
def ofChars (read : List Char) : KeptText := ⟨read, byteLength read⟩

/-- An edit touches all from its start on. -/
def edit (tree : KeptText) (edit : TreeEdit) : KeptText :=
  { tree with untouched := min tree.untouched edit.start.bytes }

/-- Takes over what no edit has touched, and reads the text behind that. -/
def reread (tree : KeptText) (text : String) : List Char :=
  match splitAt? tree.read tree.untouched, dropBytes? text tree.untouched with
  | some (taken, _), some behind => taken ++ behind
  | _, _ => text.toList

/-- What no edit has touched in a tree is how a text starts. -/
def StartsAs (tree : KeptText) (text : String) : Prop :=
  ∃ front,
    byteLength front = tree.untouched ∧ front <+: tree.read ∧ front <+: text.toList

/-- An edit that describes how a text became another leaves untouched only what these share: of two
fronts of the first text one is a front of the other, and the shorter one is left.
-/
theorem StartsAs.edit {tree : KeptText} {old new : String} {edit : TreeEdit}
    (starts : tree.StartsAs old) (describes : edit.Describes old new)
    : (tree.edit edit).StartsAs new := by
  obtain ⟨front, length, read, front_old⟩ := starts
  obtain ⟨before, replaced, inserted, after, whole, next, rfl⟩ := describes
  rw [List.append_assoc] at whole next
  have before_old : before <+: old.toList := whole ▸ List.prefix_append ..
  have before_new : before <+: new.toList := next ▸ List.prefix_append ..
  rcases List.prefix_or_prefix_of_prefix front_old before_old with inside | beyond
  · obtain ⟨rest, rfl⟩ := inside
    refine ⟨front, ?_, read, (List.prefix_append front rest).trans before_new⟩
    simp [KeptText.edit, Extent.ofChars, length]
  · obtain ⟨rest, rfl⟩ := beyond
    refine ⟨before, ?_, (List.prefix_append before rest).trans read, before_new⟩
    simp [KeptText.edit, Extent.ofChars, ← length]

/-- So do edits, by induction over them. -/
theorem StartsAs.edits {tree : KeptText} {old new : String} {edits : List TreeEdit}
    (starts : tree.StartsAs old) (described : TreeEdit.Describe edits old new)
    : (edits.foldl KeptText.edit tree).StartsAs new := by
  induction described generalizing tree with
  | nil => exact starts
  | cons first _ ih => exact ih (starts.edit first)

/-- What is read then is the text. -/
theorem StartsAs.reread {tree : KeptText} {text : String} (starts : tree.StartsAs text)
    : tree.reread text = text.toList := by
  obtain ⟨front, length, ⟨rest, read⟩, behind, whole⟩ := starts
  have taken : splitAt? tree.read tree.untouched = some (front, rest) :=
    splitAt?_eq_some_iff.mpr ⟨read.symm, length⟩
  have left : dropBytes? text tree.untouched = some behind :=
    dropBytes?_eq_some_iff.mpr ⟨front, whole.symm, length⟩
  rw [KeptText.reread, taken, left]
  exact whole

end KeptText

namespace CommentLines

/-- The engine of the lines of comments over such trees. -/
def keepingEngine : Engine KeptText Unit where
  parse text earlier :=
    { tree := .ofChars ((earlier.map (·.reread text)).getD text.toList), traced := [.parse, .lex] }
  edit := KeptText.edit
  shown tree := program (String.ofList tree.read)
  compile := engine.compile
  captureNames := engine.captureNames
  search := engine.search

/-- Its trees are those that parsing from scratch gives, though they hold what was read before. -/
theorem keepingEngine_reparsesExactly : keepingEngine.ReparsesExactly := by
  intro old new edits described
  have whole : (KeptText.ofChars old.toList).StartsAs old :=
    ⟨old.toList, rfl, List.prefix_rfl, List.prefix_rfl⟩
  exact congrArg KeptText.ofChars (whole.edits described).reread

/-- Its language as a grammar that can be read. -/
def keepingGrammar : LoadedGrammar KeptText Unit :=
  ⟨⟨"javascript"⟩, "tree-sitter-javascript", .builtin, ⟨15, keepingEngine⟩⟩

end CommentLines

namespace Session

/-- A document that is one comment, parsed so. -/
def keepingSession : Session KeptText Unit :=
  (unshown { document := "file:///a.js" } "//a" CommentLines.keepingGrammar 64).refresh.2

/-- A batch that puts one line behind a comment and one before it. -/
def commentBatch : List TextChange :=
  [.ofSpan "//a" 3 0 "\n//é", .ofSpan "//a\n//é" 0 1 "// b\n/"]

/-- That batch, then a request of the view and a batch that goes beyond the text. -/
def commentCalls : List Call :=
  [.event (.textChanged commentBatch), .request (.showAnonymousNodes true),
    .event (.textChanged [.ofSpan "// b\n//a\n//é" 0 99 ""])]

/-- The texts in which the changes are made are those that they name their positions in. -/
theorem commentCalls_positioned : keepingSession.Positioned commentCalls := by
  have last : (keepingSession.after (commentCalls.take 2)).text = "// b\n//a\n//é" := by
    decide +kernel
  refine ⟨?_, ?_, ?_, trivial⟩
  · intro changes same
    obtain rfl := Option.some.inj same
    have applied : (TextChange.ofSpan "//a" 3 0 "\n//é").apply "//a"
        = .ok (⟨⟨3, ⟨0, 3⟩⟩, ⟨3, ⟨0, 3⟩⟩, ⟨8, ⟨1, 4⟩⟩⟩, "//a\n//é") := rfl
    refine ⟨⟨rfl, rfl⟩, fun edit next again => ?_⟩
    cases applied.symm.trans again
    exact ⟨⟨rfl, rfl⟩, fun _ _ _ => trivial⟩
  · intro changes same
    cases same
  · intro changes same
    obtain rfl := Option.some.inj same
    refine ⟨?_, fun _ _ _ => trivial⟩
    rw [TextChange.isPositioned_iff_eq_ofSpan]
    exact congrArg (TextChange.ofSpan · 0 99 "") last.symm

/-- Two lines that are put around a comment are parsed as if they had been there at first, with a parser
that would read something else if it were not told of the edits.
-/
theorem after_parsesFromScratch_commentLines
    : let engine := CommentLines.keepingEngine
      let last := keepingSession.after commentCalls
      engine.ReparsesExactly
      ∧ Started "//a" CommentLines.keepingGrammar 64 keepingSession
      ∧ keepingSession.Positioned commentCalls
      ∧ last.text = "// b\n//a\n//é"
      ∧ last.tree = (engine.parse last.text none).tree
      ∧ last.generation = 1
      ∧ (engine.parse last.text (some keepingSession.tree)).tree ≠ last.tree := by
  intro engine last
  have exact : CommentLines.keepingGrammar.engine.ReparsesExactly :=
    CommentLines.keepingEngine_reparsesExactly
  have started : Started "//a" CommentLines.keepingGrammar 64 keepingSession :=
    .opened "file:///a.js" rfl
  have text : last.text = "// b\n//a\n//é" := by decide +kernel
  obtain ⟨_, parsed, counted, _⟩ :=
    after_parsesFromScratch exact started commentCalls_positioned
  refine ⟨exact, started, commentCalls_positioned, text, parsed, counted.trans ?_, ?_⟩
  · decide +kernel
  · intro same
    rw [parsed, text] at same
    have read := congrArg KeptText.read same
    revert read
    decide +kernel

end Session

end SyntaxExplorer
