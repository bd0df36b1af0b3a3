import SyntaxExplorer.Proofs.Wire.PackedValues

/-! Packed bytes that are cut short are read as nothing at all.  What is read of some bytes is read of
them with any others behind, so a value of the first bytes of another one would leave over the others.
-/

namespace SyntaxExplorer.Wire

-----------------------------------------------------------------------------------------
-- Readers and what stands behind the bytes that they read
-----------------------------------------------------------------------------------------

/-- A reader outlasts another one: what that reads of some bytes it reads of them too, and leaves what
stands behind them.
-/
structure Outlasts {α : Type} (further read : List UInt8 → Option (α × List UInt8)) : Prop where
  reads
    : ∀ {bytes value rest},
        read bytes = some (value, rest)
        → ∀ more, further (bytes ++ more) = some (value, rest ++ more)

namespace Outlasts

variable {α β : Type} {further read : List UInt8 → Option (α × List UInt8)}

/-- A reader that takes nothing outlasts itself. -/
theorem pure (value : α)
    : Outlasts (fun bytes => some (value, bytes)) (fun bytes => some (value, bytes)) where
  reads := by
    rintro bytes value rest ⟨⟩ more
    rfl

/-- Readers one after another outlast others if each does. -/
theorem bind {later next : α → List UInt8 → Option (β × List UInt8)}
    (first : Outlasts further read) (second : ∀ value, Outlasts (later value) (next value))
    : Outlasts (fun bytes => (further bytes).bind fun taken => later taken.1 taken.2)
        (fun bytes => (read bytes).bind fun taken => next taken.1 taken.2) where
  reads := by
    intro bytes value rest done more
    obtain ⟨⟨head, left⟩, taken, others⟩ := Option.bind_eq_some_iff.mp done
    simp only [first.reads taken more, Option.bind_some]
    exact (second head).reads others more

/-- What is made of what a reader takes does not matter to what it outlasts. -/
theorem map (outlasts : Outlasts further read) (change : α → β)
    : Outlasts (fun bytes => (further bytes).map fun taken => (change taken.1, taken.2))
        (fun bytes => (read bytes).map fun taken => (change taken.1, taken.2)) where
  reads := by
    intro bytes value rest done more
    obtain ⟨⟨head, left⟩, taken, same⟩ := Option.map_eq_some_iff.mp done
    cases same
    simp only [outlasts.reads taken more, Option.map_some]

end Outlasts

/-- Reading a number leaves what stands behind it, by induction over its bytes. -/
theorem takeNumber_outlasts (count earlier : Nat)
    : Outlasts (takeNumber count earlier) (takeNumber count earlier) := by
  induction count generalizing earlier with
  | zero => exact .pure earlier
  | succ count ih =>
      refine ⟨fun {bytes value rest} taken more => ?_⟩
      cases bytes with
      | nil => cases taken
      | cons byte bytes => exact (ih _).reads taken more

/-- Taking bytes leaves what stands behind them, by induction over them. -/
theorem takeBytes_outlasts (count : Nat) : Outlasts (takeBytes count) (takeBytes count) := by
  induction count with
  | zero => exact .pure []
  | succ count ih =>
      refine ⟨fun {bytes value rest} taken more => ?_⟩
      cases bytes with
      | nil => cases taken
      | cons byte bytes => exact (ih.map (byte :: ·)).reads taken more

/-- Reading a number with a sign leaves what stands behind it. -/
theorem takeSigned_outlasts (size : Nat) : Outlasts (takeSigned size) (takeSigned size) :=
  (takeNumber_outlasts size 0).map fun (value : Nat) =>
    if value < Nat.pow 256 size / 2 then (value : Int) else (value : Int) - Nat.pow 256 size

/-- Skipping an extension leaves what stands behind it. -/
theorem takeExtension_outlasts (length : Nat)
    : Outlasts (takeExtension length) (takeExtension length) :=
  (takeBytes_outlasts (length + 1)).map fun _ => Pack.extension

mutual

/-- A reader that may take more steps outlasts one with fewer, by induction over the steps and by cases
on what the first byte announces.
-/
theorem readPack_outlasts
    : ∀ {fuel steps : Nat}, fuel ≤ steps → Outlasts (readPack steps) (readPack fuel)
  | 0, _, _ => ⟨fun read => nomatch read⟩
  | fuel + 1, 0, enough => nomatch enough
  | fuel + 1, steps + 1, enough => by
      have within := Nat.le_of_succ_le_succ enough
      refine ⟨fun {bytes pack rest} read more => ?_⟩
      cases bytes with
      | nil => cases read
      | cons byte bytes =>
          rw [readPack] at read
          obtain ⟨start, announced, read⟩ := Option.bind_eq_some_iff.mp read
          rw [List.cons_append, readPack]
          simp only [announced, Option.bind_eq_bind, Option.bind_some] at read ⊢
          cases start with
          | value value => exact (Outlasts.pure value).reads read more
          | natural size =>
              exact ((takeNumber_outlasts size 0).bind fun value =>
                .pure (Pack.integer false value)).reads read more
          | integer size =>
              exact ((takeSigned_outlasts size).bind fun value =>
                .pure (Pack.integer true value)).reads read more
          | fraction size =>
              exact ((takeBytes_outlasts size).bind fun _ => .pure Pack.fraction).reads read more
          | text length =>
              exact ((takeBytes_outlasts length).bind fun bytes =>
                .pure (Pack.text bytes)).reads read more
          | textOfLength size =>
              exact ((takeNumber_outlasts size 0).bind fun length =>
                (takeBytes_outlasts length).bind fun bytes => .pure (Pack.text bytes)).reads read more
          | bytesOfLength size =>
              exact ((takeNumber_outlasts size 0).bind fun length =>
                (takeBytes_outlasts length).bind fun bytes => .pure (Pack.bytes bytes)).reads read more
          | list length =>
              exact ((readPacks_outlasts within length).bind fun items =>
                .pure (Pack.list items)).reads read more
          | listOfLength size =>
              exact ((takeNumber_outlasts size 0).bind fun length =>
                (readPacks_outlasts within length).bind fun items =>
                  .pure (Pack.list items)).reads read more
          | map length =>
              exact ((readPackEntries_outlasts within length).bind fun entries =>
                .pure (Pack.map entries)).reads read more
          | mapOfLength size =>
              exact ((takeNumber_outlasts size 0).bind fun length =>
                (readPackEntries_outlasts within length).bind fun entries =>
                  .pure (Pack.map entries)).reads read more
          | extension length => exact (takeExtension_outlasts length).reads read more
          | extensionOfLength size =>
              exact ((takeNumber_outlasts size 0).bind takeExtension_outlasts).reads read more

/-- Readers of so many values outlast one another in the same way. -/
theorem readPacks_outlasts
    : ∀ {fuel steps : Nat},
        fuel ≤ steps → ∀ count, Outlasts (readPacks steps count) (readPacks fuel count)
  | fuel, steps, _, 0 => by cases fuel <;> cases steps <;> exact .pure []
  | 0, _, _, count + 1 => ⟨fun read => nomatch read⟩
  | fuel + 1, 0, enough, count + 1 => nomatch enough
  | fuel + 1, steps + 1, enough, count + 1 =>
      have within := Nat.le_of_succ_le_succ enough
      (readPack_outlasts within).bind fun first =>
        (readPacks_outlasts within count).bind fun items => .pure (first :: items)

/-- Readers of so many entries of a map outlast one another in the same way. -/
theorem readPackEntries_outlasts
    : ∀ {fuel steps : Nat},
        fuel ≤ steps → ∀ count, Outlasts (readPackEntries steps count) (readPackEntries fuel count)
  | fuel, steps, _, 0 => by cases fuel <;> cases steps <;> exact .pure []
  | 0, _, _, count + 1 => ⟨fun read => nomatch read⟩
  | fuel + 1, 0, enough, count + 1 => nomatch enough
  | fuel + 1, steps + 1, enough, count + 1 =>
      have within := Nat.le_of_succ_le_succ enough
      (readPack_outlasts within).bind fun key => (readPack_outlasts within).bind fun value =>
        (readPackEntries_outlasts within count).bind fun entries => .pure ((key, value) :: entries)

end

-----------------------------------------------------------------------------------------
-- Bytes that are cut short
-----------------------------------------------------------------------------------------

/-- No reader reads a value of some first bytes of those that spell one. -/
theorem Spells.readPack_take {bytes : List UInt8} {pack : Pack} (spells : Spells bytes pack)
    {count : Nat} (short : count < bytes.length) (fuel : Nat)
    : readPack fuel (bytes.take count) = none := by
  cases read : readPack fuel (bytes.take count) with
  | none => rfl
  | some result =>
      obtain ⟨other, rest⟩ := result
      have longer := (readPack_outlasts (Nat.le_add_left fuel (2 * bytes.length))).reads read
        (bytes.drop count)
      have whole := spells.read (2 * bytes.length + fuel) [] (Nat.le_add_right _ _)
      rw [List.append_nil] at whole
      rw [List.take_append_drop, whole, Option.some.injEq, Prod.mk.injEq] at longer
      have covered := List.drop_eq_nil_iff.mp (List.append_eq_nil_iff.mp longer.2.symm).2
      exact (Nat.not_lt.mpr covered short).elim

/-- Bytes of a value that fits are not read as any value if they are cut short. -/
theorem Format.unpack?_take_pack {α : Type} {format : Format α} {value : α}
    (distinct : format.schema.isDistinct = true) (fits : format.Fits value) {room : Nat}
    (short : room < (format.pack value).length)
    : format.unpack? ((format.pack value).take room) = none := by
  have spells := format.schema.pack_spells (format.toValue value) distinct fits
  rw [Format.unpack?, Format.pack, spells.readPack_take short]
  rfl

end SyntaxExplorer.Wire
