import Mathlib.Data.Finset.Card
import Mathlib.Data.List.DropRight
import Mathlib.Data.List.Induction
import SyntaxExplorer.Proofs.Query.RepeatedRuns

/-! The color of a name says how many other names were seen before it, up to the length of the palette.
An assigner holds the names since its last reset in the order in which they were first seen, each at
the place that counts the names before it.
-/

namespace SyntaxExplorer

-----------------------------------------------------------------------------------------
-- The order in which names are first seen
-----------------------------------------------------------------------------------------

/-- How many other names are seen before a name. -/
def seenBefore (names : List String) (name : String) : Nat :=
  (names.takeWhile (· != name)).toFinset.card

/-- Before a name that was not seen yet, all distinct names were. -/
theorem seenBefore_of_notMem {names : List String} {name : String} (unseen : name ∉ names)
    : seenBefore names name = names.toFinset.card := by
  have others : ∀ other ∈ names, (other != name) = true := fun other member =>
    bne_iff_ne.mpr fun same => unseen (same ▸ member)
  rw [seenBefore, List.takeWhile_eq_self_iff.mpr others]

/-- Nothing counts that comes behind a name. -/
theorem seenBefore_append (before : List String) (name : String) (after : List String)
    : seenBefore (before ++ name :: after) name = seenBefore before name := by
  have stops (first rest : List String) (unseen : name ∉ first)
      : (first ++ name :: rest).takeWhile (· != name) = first := by
    have others : ∀ other ∈ first, (other != name) = true := fun other member =>
      bne_iff_ne.mpr fun same => unseen (same ▸ member)
    simp [List.takeWhile_append_of_pos others]
  by_cases known : name ∈ before
  · obtain ⟨first, rest, rfl, unseen⟩ := List.eq_append_cons_of_mem known
    rw [List.append_assoc, List.cons_append, seenBefore, seenBefore, stops _ _ unseen,
      stops _ _ unseen]
  · rw [seenBefore_of_notMem known, seenBefore, stops _ _ known]

/-- A name is listed behind the distinct names before it, unless it is one of them. -/
theorem eraseDups_concat (names : List String) (name : String)
    : (names ++ [name]).eraseDups
      = if name ∈ names then names.eraseDups else names.eraseDups ++ [name] := by
  rw [List.eraseDups_append]
  by_cases known : name ∈ names
  · simp [List.removeAll, known]
  · simp [List.removeAll, known, List.eraseDups_cons]

/-- Distinct names are listed once, by induction from the last name. -/
theorem nodup_eraseDups (names : List String) : names.eraseDups.Nodup := by
  induction names using List.reverseRecOn with
  | nil => exact List.nodup_nil
  | append_singleton names name ih =>
      rw [eraseDups_concat]
      split
      · exact ih
      · rename_i unseen
        refine List.nodup_append.mpr ⟨ih, List.nodup_singleton name, ?_⟩
        rintro other member _ same rfl
        rw [List.mem_singleton.mp same] at member
        exact unseen (List.mem_eraseDups.mp member)

/-- There are as many distinct names as their set has. -/
theorem length_eraseDups (names : List String) : names.eraseDups.length = names.toFinset.card := by
  rw [← List.toFinset_card_of_nodup (nodup_eraseDups names)]
  congr 1
  ext name
  simp

/-- A name is first seen at the place that counts the other names before it. -/
theorem eq_seenBefore {names : List String} {name : String} {place : Nat}
    (here : names.eraseDups[place]? = some name)
    : place = seenBefore names name := by
  have within := (List.getElem?_eq_some_iff.mp here).1
  have known : name ∈ names := List.mem_eraseDups.mp (List.mem_of_getElem? here)
  obtain ⟨before, after, rfl, unseen⟩ := List.eq_append_cons_of_mem known
  have first : (before ++ name :: after).eraseDups[before.eraseDups.length]? = some name := by
    rw [List.eraseDups_append]
    simp [List.removeAll, unseen, List.eraseDups_cons]
  have same := (List.getElem?_inj within (nodup_eraseDups _)).mp (here.trans first.symm)
  rw [seenBefore_append, seenBefore_of_notMem unseen, ← length_eraseDups, same]

-----------------------------------------------------------------------------------------
-- Calls of an assigner
-----------------------------------------------------------------------------------------

/-- A call of an assigner. -/
inductive ColorCall
  | assign (name : String)
  | reset
  deriving DecidableEq

namespace ColorCall

/-- The name that gets a color in a call. -/
def name? : ColorCall → Option String
  | assign name => some name
  | reset => none

/-- A call for a name under which another one goes. -/
def rename (newName : String → String) : ColorCall → ColorCall
  | assign name => assign (newName name)
  | reset => reset

/-- The names that got a color since the last reset, in the order of the calls. -/
def namesSince (calls : List ColorCall) : List String :=
  (calls.rtakeWhile (· != reset)).filterMap name?

theorem namesSince_assign (calls : List ColorCall) (name : String)
    : namesSince (calls ++ [assign name]) = namesSince calls ++ [name] := by
  rw [namesSince, List.rtakeWhile_concat_pos (· != reset) calls _ rfl, List.filterMap_append]
  rfl

theorem namesSince_reset (calls : List ColorCall) : namesSince (calls ++ [reset]) = [] := by
  rw [namesSince, List.rtakeWhile_concat_neg (· != reset) calls _ (by decide), List.filterMap_nil]

/-- Calls that do not reset add their names, by induction from the last call. -/
theorem namesSince_append (calls : List ColorCall) {later : List ColorCall} (kept : reset ∉ later)
    : namesSince (calls ++ later) = namesSince calls ++ later.filterMap name? := by
  induction later using List.reverseRecOn with
  | nil => simp
  | append_singleton later call ih =>
      obtain ⟨earlier, last⟩ := not_or.mp (mt List.mem_append.mpr kept)
      cases call with
      | assign name =>
          rw [← List.append_assoc, namesSince_assign, ih earlier, List.filterMap_append,
            List.append_assoc]
          rfl
      | reset => exact (last (List.mem_singleton_self _)).elim

end ColorCall

namespace ColorAssigner

open ColorCall

/-- What a call leaves of an assigner. -/
def handle (colors : ColorAssigner) : ColorCall → ColorAssigner
  | .assign name => (colors.assign name).2
  | .reset => colors.reset

/-- What some calls leave of an assigner. -/
def after (colors : ColorAssigner) (calls : List ColorCall) : ColorAssigner :=
  calls.foldl handle colors

/-- The colors that some calls are answered with. -/
def answers (colors : ColorAssigner) : List ColorCall → List String
  | [] => []
  | .assign name :: rest => (colors.assign name).1 :: (colors.assign name).2.answers rest
  | .reset :: rest => colors.reset.answers rest

theorem after_concat (colors : ColorAssigner) (calls : List ColorCall) (call : ColorCall)
    : colors.after (calls ++ [call]) = (colors.after calls).handle call := by
  rw [after, List.foldl_append, List.foldl_cons, List.foldl_nil, after]

/-- A name that gets its color is added behind the others, unless it is one of them. -/
theorem names_assign (colors : ColorAssigner) (name : String)
    : (colors.assign name).2.names
      = if name ∈ colors.names then colors.names else colors.names ++ [name] := by
  obtain ⟨_, _, _, names⟩ := colors.assign_spec name
  rw [names]
  split <;> simp [List.removeAll, *]

/-- A name that has its color already changes nothing. -/
theorem assign_of_mem {colors : ColorAssigner} {name : String} (known : name ∈ colors.names)
    : (colors.assign name).2 = colors := by
  have names := colors.names_assign name
  rw [if_pos known] at names
  exact congrArg ColorAssigner.mk names

/-- After any calls an assigner holds the distinct names since the last reset in the order in which
they were first seen, by induction from the last call.
-/
theorem names_after (calls : List ColorCall)
    : (({} : ColorAssigner).after calls).names = (namesSince calls).eraseDups := by
  induction calls using List.reverseRecOn with
  | nil => rfl
  | append_singleton calls call ih =>
      rw [after_concat]
      cases call with
      | assign name =>
          simp only [handle, names_assign, ih, List.mem_eraseDups, namesSince_assign,
            eraseDups_concat]
      | reset =>
          rw [namesSince_reset]
          rfl

/-- A name gets the color at the place that counts the other names before it. -/
theorem assign_after (calls : List ColorCall) (name : String)
    : ((({} : ColorAssigner).after calls).assign name).1
      = colorAt (seenBefore (namesSince calls) name) := by
  obtain ⟨place, here, shade, _⟩ := (({} : ColorAssigner).after calls).assign_spec name
  have names := names_after (calls ++ [.assign name])
  rw [after_concat, handle, namesSince_assign] at names
  rw [names] at here
  rw [shade, eq_seenBefore here, seenBefore_append]

/-- A name that got its color since the last reset keeps it, and changes nothing. -/
theorem assign_again (earlier : List ColorCall) (name : String) {later : List ColorCall}
    (kept : .reset ∉ later)
    : let colors := ({} : ColorAssigner).after (earlier ++ .assign name :: later)
      colors.assign name = (((({} : ColorAssigner).after earlier).assign name).1, colors) := by
  intro colors
  have since : namesSince (earlier ++ .assign name :: later)
      = namesSince earlier ++ name :: later.filterMap name? :=
    namesSince_append earlier (by simpa using kept)
  have known : name ∈ colors.names := by
    rw [names_after, List.mem_eraseDups, since]
    simp
  refine Prod.ext ?_ (assign_of_mem known)
  rw [assign_after, assign_after, since, seenBefore_append]

-----------------------------------------------------------------------------------------
-- Colors that differ
-----------------------------------------------------------------------------------------

/-- The palette has no color twice, so colors say places up to its length. -/
theorem shade_eq_iff {place other : Nat} {shade shade' : String}
    (here : palette[place % 13]? = some shade) (there : palette[other % 13]? = some shade')
    : shade = shade' ↔ place % 13 = other % 13 := by
  have distinct : palette.Nodup := by decide
  have within : place % 13 < palette.length := Nat.mod_lt place (by decide)
  rw [← List.getElem?_inj within distinct, here, there, Option.some.injEq]

/-- Names that are first seen one after another have different colors, if there are no more of them
than colors: their places are less than a palette apart.
-/
theorem nodup_assign_after (calls : List ColorCall) {window : List String}
    (inOrder : window <:+: (namesSince calls).eraseDups) (few : window.length ≤ 13)
    : (window.map fun name => ((({} : ColorAssigner).after calls).assign name).1).Nodup := by
  have distinct : window.Nodup := inOrder.nodup (nodup_eraseDups _)
  obtain ⟨before, after, whole⟩ := inOrder
  have placed (place : Nat) (within : place < window.length)
      : before.length + place = seenBefore (namesSince calls) window[place] := by
    apply eq_seenBefore
    rw [← whole, List.append_assoc, List.getElem?_append_right (Nat.le_add_right _ _),
      Nat.add_sub_cancel_left, List.getElem?_append_left within, List.getElem?_eq_getElem within]
  refine distinct.map_on fun first member second others same => ?_
  obtain ⟨place, within, rfl⟩ := List.getElem_of_mem member
  obtain ⟨place', within', rfl⟩ := List.getElem_of_mem others
  rw [assign_after, assign_after, ← placed _ within, ← placed _ within'] at same
  have close := (shade_eq_iff (palette_getElem?_mod _) (palette_getElem?_mod _)).mp same
  have equal : place = place' := by omega
  subst equal
  rfl

-----------------------------------------------------------------------------------------
-- Other names for the names
-----------------------------------------------------------------------------------------

/-- Under other names the same color is given, and the other names are held. -/
theorem assign_rename {newName : String → String} (injective : newName.Injective)
    (colors : ColorAssigner) (name : String)
    : (⟨colors.names.map newName⟩ : ColorAssigner).assign (newName name)
      = ((colors.assign name).1, ⟨(colors.assign name).2.names.map newName⟩) := by
  have found : (colors.names.map newName).idxOf? (newName name) = colors.names.idxOf? name := by
    rw [List.idxOf?, List.idxOf?, List.findIdx?_map]
    congr 1
    funext other
    simp [injective.eq_iff]
  rw [assign, assign, found]
  cases colors.names.idxOf? name <;> simp

/-- Under other names calls are answered with the same colors, by induction over the calls. -/
theorem answers_rename {newName : String → String} (injective : newName.Injective)
    (colors : ColorAssigner) (calls : List ColorCall)
    : (⟨colors.names.map newName⟩ : ColorAssigner).answers (calls.map (.rename newName))
      = colors.answers calls := by
  induction calls generalizing colors with
  | nil => rfl
  | cons call rest ih =>
      cases call with
      | assign name =>
          simp only [List.map_cons, rename, answers, assign_rename injective, ih]
      | reset => exact ih {}

end ColorAssigner

-----------------------------------------------------------------------------------------
-- Captures
-----------------------------------------------------------------------------------------

/-- Captures that are colored by their names have one color exactly if their names are first seen a
number of palettes apart.
-/
theorem Colored.color_eq_iff {captures : List Capture} {colors : ColorAssigner}
    (colored : Colored captures colors) {first second : Capture} (member : first ∈ captures)
    (other : second ∈ captures)
    : first.color = second.color
      ↔ seenBefore (captures.map (·.name)) first.name % 13
        = seenBefore (captures.map (·.name)) second.name % 13 := by
  obtain ⟨place, here, shade⟩ := colored.shades first member
  obtain ⟨place', there, shade'⟩ := colored.shades second other
  rw [colored.names] at here there
  rw [← eq_seenBefore here, ← eq_seenBefore there]
  exact ColorAssigner.shade_eq_iff shade shade'

variable {Tree Query : Type}

/-- After any calls, a name gets the color at the place that counts the other names that got one
before it since the last reset, the palette starting over at its end, and an assigner counts the
distinct names since then.  Until the next reset a name keeps its color, and asking for it again
changes nothing; names that are first seen one after another have different colors, if there are no
more of them than colors; and other names for the names give the same colors.  So of the captures of a
run two have one color exactly if their names are first seen a number of palettes apart.
-/
theorem ColorAssigner.after_colorsByFirstSeen (grammar : LoadedGrammar Tree Query)
    : (∀ calls : List ColorCall,
        let colors := ({} : ColorAssigner).after calls
        let names := ColorCall.namesSince calls
        (∀ name, palette[seenBefore names name % 13]? = some (colors.assign name).1)
        ∧ colors.count = names.toFinset.card
        ∧ (∀ earlier name later,
            calls = earlier ++ .assign name :: later
            → .reset ∉ later
            → colors.assign name = (((({} : ColorAssigner).after earlier).assign name).1, colors))
        ∧ (∀ window,
            window <:+: names.eraseDups
            → window.length ≤ 13
            → (window.map fun name => (colors.assign name).1).Nodup)
        ∧ ∀ newName : String → String,
            newName.Injective
            → ({} : ColorAssigner).answers (calls.map (.rename newName))
              = ({} : ColorAssigner).answers calls)
      ∧ ∀ (runner : QueryRunner Query) (tree : Tree) (source text : String)
          (colors : ColorAssigner) (captures : List Capture),
          (runner.run grammar tree source text colors).captures = .ok captures
          → ∀ first ∈ captures, ∀ second ∈ captures,
              first.color = second.color
              ↔ seenBefore (captures.map (·.name)) first.name % 13
                = seenBefore (captures.map (·.name)) second.name % 13 := by
  refine ⟨fun calls => ⟨?_, ?_, ?_, ?_, ?_⟩, ?_⟩
  · intro name
    rw [assign_after]
    exact palette_getElem?_mod _
  · rw [count, names_after, length_eraseDups]
  · rintro earlier name later rfl kept
    exact assign_again earlier name kept
  · exact fun window inOrder few => nodup_assign_after calls inOrder few
  · exact fun newName injective => answers_rename injective {} calls
  · intro runner tree source text colors captures answered first member second other
    have colored := runner.run_colored grammar tree source text
    have found : (runner.run grammar tree source text).found = captures := by
      rw [QueryRunner.Outcome.found, ← runner.run_forgets grammar tree source text colors, answered]
      rfl
    rw [found] at colored
    exact colored.color_eq_iff member other

/-- A grammar of the lines of comments in which a query captures the program under all of some names. -/
def naming (names : List String) : LoadedGrammar String Unit :=
  { CommentLines.grammar with
    build :=
      { CommentLines.grammar.build with
        engine := { CommentLines.engine with
          captureNames := fun _ => names.toArray
          search := fun _ _ root _ =>
            { found := [⟨0, (List.finRange names.toArray.size).map fun name => ⟨name, root, none⟩⟩]
              exceeded := false } } } }

/-- Of fourteen names the last thirteen have different colors, and the first one has that of the last
one; so have captures under these two names, and captures under the first two names have not.
-/
theorem ColorAssigner.after_colorsByFirstSeen_fourteenNames
    : let names := ["a", "b", "c", "d", "e", "f", "g", "h", "i", "j", "k", "l", "m", "n"]
      let calls : List ColorCall := [.assign "z", .reset] ++ names.map .assign
      let colors := ({} : ColorAssigner).after calls
      let runner : QueryRunner Unit := { matchLimit := 64 }
      names.tail <:+: (ColorCall.namesSince calls).eraseDups
      ∧ (names.tail.map fun name => (colors.assign name).1).Nodup
      ∧ colors.assign "a" = ("#80cbc4", colors)
      ∧ (colors.assign "n").1 = "#80cbc4"
      ∧ ({} : ColorAssigner).answers (calls.map (.rename ("@" ++ ·)))
        = ({} : ColorAssigner).answers calls
      ∧ ∃ captures,
          (runner.run (naming names) "//a" "//a" CommentLines.query).captures = .ok captures
          ∧ captures.map (·.name) = names
          ∧ ∀ first ∈ captures, ∀ other ∈ captures,
              first.name = "a"
              → (other.name = "n" → first.color = other.color)
                ∧ (other.name = "b" → first.color ≠ other.color) := by
  intro names calls colors runner
  obtain ⟨colored, captured⟩ := after_colorsByFirstSeen (naming names)
  obtain ⟨shades, _, again, differ, renamed⟩ := colored calls
  have inOrder : names.tail <:+: (ColorCall.namesSince calls).eraseDups := by
    have listed : (ColorCall.namesSince calls).eraseDups = "a" :: names.tail := by decide +kernel
    rw [listed]
    exact List.infix_cons List.infix_rfl
  have kept : .reset ∉ names.tail.map ColorCall.assign := by decide
  have before : seenBefore (ColorCall.namesSince calls) "n" = 13 := by decide +kernel
  have shade := shades "n"
  rw [before] at shade
  have injective : ("@" ++ · : String → String).Injective := fun _ _ same =>
    (String.append_right_inj _).mp same
  have asked : QueryRunner.isBlank CommentLines.query = false := by decide +kernel
  have compiled : (naming names).engine.compile CommentLines.query = .ok () := rfl
  have keeps : runner.KeepsCompiled (naming names) := QueryRunner.keepsCompiled_new 64 _
  obtain ⟨captures, answered, inTurn⟩ :=
    QueryRunner.captures_of_found asked compiled "//a" "//a" keeps rfl
  have listed : captures.map (·.name) = names := by
    have inOrder := congrArg (List.map (·.2.1)) inTurn
    rw [List.map_map] at inOrder
    exact inOrder
  have same := captured runner "//a" "//a" CommentLines.query {} captures answered
  rw [listed] at same
  refine ⟨inOrder, differ names.tail inOrder (by decide),
    again [.assign "z", .reset] "a" (names.tail.map .assign) rfl kept, (Option.some.inj shade).symm,
    renamed _ injective, captures, answered, listed, ?_⟩
  intro first member other others isFirst
  refine ⟨fun isLast => ?_, fun isSecond equal => ?_⟩
  · rw [same first member other others, isFirst, isLast]
    decide +kernel
  · rw [same first member other others, isFirst, isSecond] at equal
    exact absurd equal (by decide +kernel)

end SyntaxExplorer
