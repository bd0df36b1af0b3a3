import Mathlib.Data.List.Induction
import Mathlib.Data.List.Nodup
import Mathlib.Logic.Function.Basic
import SyntaxExplorer.Proofs.Histories
import SyntaxExplorer.View.Publisher

/-! A channel keeps the last refresh among those of the greatest generation, whoever publishes them and
in whatever order.  Its readers are told of every refresh that was accepted, and of no other.
-/

namespace SyntaxExplorer

-----------------------------------------------------------------------------------------
-- The latest refresh
-----------------------------------------------------------------------------------------

/-- Of some refreshes, this one is the last among those of the greatest generation. -/
def IsLatest (refreshes : List (Nat × Refresh)) (generation : Nat) (refresh : Refresh) : Prop :=
  ∃ earlier later,
    refreshes = earlier ++ (generation, refresh) :: later
    ∧ (∀ other ∈ earlier, other.1 ≤ generation)
    ∧ ∀ other ∈ later, other.1 < generation

namespace IsLatest

variable {refreshes : List (Nat × Refresh)} {generation newer older : Nat}
variable {refresh next : Refresh}

/-- The latest refresh is one of them. -/
theorem mem (isLatest : IsLatest refreshes generation refresh)
    : (generation, refresh) ∈ refreshes := by
  obtain ⟨earlier, later, rfl, _, _⟩ := isLatest
  simp

/-- None of the refreshes is of a greater generation. -/
theorem greatest (isLatest : IsLatest refreshes generation refresh)
    : ∀ other ∈ refreshes, other.1 ≤ generation := by
  obtain ⟨earlier, later, rfl, before, behind⟩ := isLatest
  intro other member
  rcases List.mem_append.mp member with among | among
  · exact before other among
  · rcases List.mem_cons.mp among with rfl | among
    · exact Nat.le_refl _
    · exact Nat.le_of_lt (behind other among)

/-- A refresh that comes last and is not older is the latest. -/
theorem of_newer (refresh : Refresh) (newer : ∀ other ∈ refreshes, other.1 ≤ generation)
    : IsLatest (refreshes ++ [(generation, refresh)]) generation refresh :=
  ⟨refreshes, [], rfl, newer, by simp⟩

/-- An older refresh that comes last changes nothing. -/
theorem concat (isLatest : IsLatest refreshes generation refresh) (stale : older < generation)
    (other : Refresh)
    : IsLatest (refreshes ++ [(older, other)]) generation refresh := by
  obtain ⟨earlier, later, rfl, before, behind⟩ := isLatest
  refine ⟨earlier, later ++ [(older, other)], by simp, before, ?_⟩
  intro another member
  rcases List.mem_append.mp member with among | last
  · exact behind another among
  · rw [List.mem_singleton.mp last]
    exact stale

/-- Refreshes of distinct generations have one that is the latest in any order. -/
theorem eq_of_perm {others : List (Nat × Refresh)} (isLatest : IsLatest refreshes generation refresh)
    (isNext : IsLatest others newer next) (same : refreshes.Perm others)
    (distinct : (refreshes.map Prod.fst).Nodup)
    : generation = newer ∧ refresh = next := by
  have among : (newer, next) ∈ refreshes := same.mem_iff.mpr isNext.mem
  have equal : generation = newer := by
    have below := isNext.greatest _ (same.mem_iff.mp isLatest.mem)
    have above := isLatest.greatest _ among
    exact Nat.le_antisymm below above
  subst equal
  have unique := List.inj_on_of_nodup_map distinct isLatest.mem among rfl
  exact ⟨rfl, congrArg Prod.snd unique⟩

end IsLatest

/-- A refresh that is accepted is out from now on, under the next version. -/
theorem Publisher.publish_of_accepted {publisher : Publisher} {generation : Nat} {refresh : Refresh}
    (accepted : (publisher.publish generation refresh).1 = true)
    : (publisher.publish generation refresh).2
      = ⟨⟨generation, some refresh⟩, publisher.version + 1⟩ := by
  rw [publish] at accepted ⊢
  split at accepted
  · cases accepted
  · rename_i newer
    rw [if_neg newer]

/-- A refresh that is not accepted leaves the channel alone. -/
theorem Publisher.publish_of_rejected {publisher : Publisher} {generation : Nat} {refresh : Refresh}
    (rejected : (publisher.publish generation refresh).1 = false)
    : (publisher.publish generation refresh).2 = publisher := by
  rw [publish] at rejected ⊢
  split at rejected
  · rename_i stale
    rw [if_pos stale]
  · cases rejected

/-- What is out on a channel after some refreshes: nothing if there were none, and else the latest. -/
def Publisher.Carries (publisher : Publisher) (refreshes : List (Nat × Refresh)) : Prop :=
  (refreshes = [] ∧ publisher.latest = {})
  ∨ ∃ generation refresh,
      publisher.latest = ⟨generation, some refresh⟩ ∧ IsLatest refreshes generation refresh

namespace Publisher.Carries

variable {publisher : Publisher} {refreshes others : List (Nat × Refresh)}

/-- A refresh is accepted exactly if none before was of a greater generation. -/
theorem accepts_iff (carries : publisher.Carries refreshes) (generation : Nat) (refresh : Refresh)
    : (publisher.publish generation refresh).1 = true
      ↔ ∀ other ∈ refreshes, other.1 ≤ generation := by
  rcases carries with ⟨none, out⟩ | ⟨current, shown, out, isLatest⟩
  · simp [publish, isStale, out, none]
  · by_cases stale : generation < current
    · have newer := isLatest.mem
      simp only [publish, isStale, out, Option.isSome_some, stale, decide_true, Bool.true_and,
        if_true, Bool.false_eq_true, false_iff]
      intro below
      exact absurd (below _ newer) (Nat.not_le_of_lt stale)
    · simp only [publish, isStale, out, Option.isSome_some, stale, decide_false, Bool.and_false,
        Bool.false_eq_true, if_false, true_iff]
      intro other member
      exact Nat.le_trans (isLatest.greatest other member) (Nat.le_of_not_lt stale)

/-- A channel that carries the latest of some refreshes carries the latest of one more. -/
theorem publish (carries : publisher.Carries refreshes) (generation : Nat) (refresh : Refresh)
    : (publisher.publish generation refresh).2.Carries (refreshes ++ [(generation, refresh)]) := by
  have accepts := carries.accepts_iff generation refresh
  rw [Publisher.publish] at accepts ⊢
  split at accepts
  · rename_i stale
    rw [if_pos stale]
    rcases carries with ⟨none, out⟩ | ⟨current, shown, out, isLatest⟩
    · simp [isStale, out] at stale
    · have older : generation < current := by simpa [isStale, out] using stale
      exact Or.inr ⟨current, shown, out, isLatest.concat older refresh⟩
  · rename_i newer
    rw [if_neg newer]
    exact Or.inr ⟨generation, refresh, rfl, .of_newer refresh (accepts.mp rfl)⟩

/-- What is out is the same for any order of refreshes of distinct generations. -/
theorem latest_eq_of_perm {another : Publisher} (carries : publisher.Carries refreshes)
    (carriesOthers : another.Carries others) (same : refreshes.Perm others)
    (distinct : (refreshes.map Prod.fst).Nodup)
    : publisher.latest = another.latest := by
  rcases carries with ⟨none, out⟩ | ⟨generation, refresh, out, isLatest⟩
  · rcases carriesOthers with ⟨_, outThere⟩ | ⟨_, _, _, isNext⟩
    · rw [out, outThere]
    · have among := same.mem_iff.mpr isNext.mem
      simp [none] at among
  · rcases carriesOthers with ⟨none, _⟩ | ⟨newer, next, outThere, isNext⟩
    · have among := same.mem_iff.mp isLatest.mem
      simp [none] at among
    · obtain ⟨rfl, rfl⟩ := isLatest.eq_of_perm isNext same distinct
      rw [out, outThere]

end Publisher.Carries

-----------------------------------------------------------------------------------------
-- Channels with readers
-----------------------------------------------------------------------------------------

/-- What happens next at a channel: one of those who publish makes a refresh known, a reader joins, or a
reader takes what is out.
-/
inductive ChannelMove
  | publish (generation : Nat) (refresh : Refresh)
  | subscribe (reader : Nat)
  | take (reader : Nat)

/-- A channel, and what each of its readers saw last. -/
structure Channel where
  publisher : Publisher := {}
  readers : Nat → Option Subscriber := fun _ => none

/-- The refresh that a move makes known, with its generation. -/
def ChannelMove.refresh? : ChannelMove → Option (Nat × Refresh)
  | publish generation refresh => some (generation, refresh)
  | subscribe _ | take _ => none

/-- After a move the reader has seen all that is out. -/
def ChannelMove.CatchesUp (reader : Nat) : ChannelMove → Prop
  | publish _ _ => False
  | subscribe other | take other => other = reader

/-- The refreshes that some moves make known. -/
def refreshesOf (moves : List ChannelMove) : List (Nat × Refresh) :=
  moves.filterMap ChannelMove.refresh?

namespace Channel

/-- What a move leads to. -/
def step (channel : Channel) : ChannelMove → Channel
  | .publish generation refresh =>
      { channel with publisher := (channel.publisher.publish generation refresh).2 }
  | .subscribe reader =>
      { channel with
        readers := Function.update channel.readers reader channel.publisher.subscribe }
  | .take reader =>
      { channel with
        readers := Function.update channel.readers reader
          ((channel.readers reader).map fun subscriber =>
            (subscriber.take channel.publisher).2) }

/-- A new channel after some moves. -/
def after (moves : List ChannelMove) : Channel := moves.foldl step {}

/-- What a reader takes by a move, if it does. -/
def answer? (channel : Channel) (reader : Nat) : ChannelMove → Option Published
  | .publish _ _ | .subscribe _ => none
  | .take other =>
      if other = reader then
        (channel.readers reader).map fun subscriber => (subscriber.take channel.publisher).1
      else none

/-- What a reader takes in the course of some moves. -/
def taken (channel : Channel) (reader : Nat) : List ChannelMove → List Published
  | [] => []
  | move :: rest => (channel.answer? reader move).toList ++ (channel.step move).taken reader rest

/-- A refresh was accepted, and since then the reader has not caught up. -/
def AcceptedSince (moves : List ChannelMove) (reader : Nat) : Prop :=
  Since
    (fun earlier move =>
      ∃ generation refresh,
        move = .publish generation refresh
        ∧ ((after earlier).publisher.publish generation refresh).1 = true)
    (ChannelMove.CatchesUp reader) moves

/-- The last move makes its own refresh known after all others. -/
theorem refreshesOf_concat (moves : List ChannelMove) (move : ChannelMove)
    : refreshesOf (moves ++ [move]) = refreshesOf moves ++ move.refresh?.toList := by
  rw [refreshesOf, List.filterMap_append, ← refreshesOf]
  cases move <;> rfl

/-- The last move is made where the moves before it led to. -/
theorem after_concat (moves : List ChannelMove) (move : ChannelMove)
    : after (moves ++ [move]) = (after moves).step move := by
  rw [after, List.foldl_append, List.foldl_cons, List.foldl_nil, ← after]

/-- A channel carries the latest of the refreshes that were made known, by induction over the moves. -/
theorem after_carries (moves : List ChannelMove)
    : (after moves).publisher.Carries (refreshesOf moves) := by
  induction moves using List.reverseRecOn with
  | nil => exact Or.inl ⟨rfl, rfl⟩
  | append_singleton moves move ih =>
      rw [after_concat, refreshesOf_concat]
      cases move with
      | publish generation refresh => exact ih.publish generation refresh
      | subscribe reader | take reader =>
          rw [ChannelMove.refresh?, Option.toList_none, List.append_nil]
          exact ih

/-- What a reader knows of a channel: it has not seen more than there is, and it has missed something
exactly if a refresh was accepted since it caught up.
-/
structure FollowedBy (moves : List ChannelMove) (reader : Nat) (subscriber : Subscriber) : Prop where
  bound : subscriber.seen ≤ (after moves).publisher.version
  misses : subscriber.seen ≠ (after moves).publisher.version ↔ AcceptedSince moves reader

/-- A reader that has just caught up has missed nothing. -/
theorem FollowedBy.of_caughtUp {moves : List ChannelMove} {move : ChannelMove} {reader : Nat}
    (catches : move.CatchesUp reader)
    : FollowedBy (moves ++ [move]) reader ⟨(after (moves ++ [move])).publisher.version⟩ := by
  refine ⟨Nat.le_refl _, ?_⟩
  rw [AcceptedSince, since_concat_iff]
  constructor
  · intro missed
    exact (missed rfl).elim
  · intro cases
    rcases cases with ⟨_, _, rfl, _⟩ | ⟨behind, _⟩
    · cases catches
    · exact (behind catches).elim

/-- A move that does not publish anything and does not concern a reader leaves it what it knows. -/
theorem FollowedBy.of_idle {moves : List ChannelMove} {move : ChannelMove} {reader : Nat}
    {subscriber : Subscriber} (followed : FollowedBy moves reader subscriber)
    (silent : move.refresh? = none) (idle : ¬ move.CatchesUp reader)
    : FollowedBy (moves ++ [move]) reader subscriber := by
  have same : (after (moves ++ [move])).publisher = (after moves).publisher := by
    rw [after_concat]
    cases move with
    | publish => cases silent
    | subscribe | take => rfl
  refine ⟨same ▸ followed.bound, ?_⟩
  rw [same, followed.misses, AcceptedSince, AcceptedSince, since_concat_iff]
  constructor
  · intro since
    exact Or.inr ⟨idle, since⟩
  · intro cases
    rcases cases with ⟨_, _, rfl, _⟩ | ⟨_, since⟩
    · cases silent
    · exact since

/-- A refresh is missed by all readers if it is accepted, and by no more than before if not. -/
theorem FollowedBy.publish {moves : List ChannelMove} {reader : Nat} {subscriber : Subscriber}
    (followed : FollowedBy moves reader subscriber) (generation : Nat) (refresh : Refresh)
    : FollowedBy (moves ++ [.publish generation refresh]) reader subscriber := by
  obtain ⟨bound, misses⟩ := followed
  have since : AcceptedSince (moves ++ [.publish generation refresh]) reader
      ↔ ((after moves).publisher.publish generation refresh).1 = true
        ∨ AcceptedSince moves reader := by
    rw [AcceptedSince, since_concat_iff]
    simp [AcceptedSince, ChannelMove.CatchesUp]
  have next : (after (moves ++ [.publish generation refresh])).publisher
      = ((after moves).publisher.publish generation refresh).2 := by
    rw [after_concat]
    rfl
  cases accepted : ((after moves).publisher.publish generation refresh).1 with
  | true =>
      rw [Publisher.publish_of_accepted accepted] at next
      rw [accepted] at since
      constructor
      · rw [next]
        exact Nat.le_succ_of_le bound
      · rw [next, since]
        simp only [true_or, iff_true]
        omega
  | false =>
      rw [Publisher.publish_of_rejected accepted] at next
      rw [accepted] at since
      constructor
      · rw [next]
        exact bound
      · rw [next, since, misses]
        simp

/-- A reader has caught up by a move, or it is where it was. -/
theorem reader_of_step {channel : Channel} {move : ChannelMove} {reader : Nat}
    {subscriber : Subscriber} (joined : (channel.step move).readers reader = some subscriber)
    : (move.CatchesUp reader ∧ subscriber = ⟨(channel.step move).publisher.version⟩)
      ∨ (¬ move.CatchesUp reader ∧ channel.readers reader = some subscriber) := by
  cases move with
  | publish generation refresh => exact Or.inr ⟨id, joined⟩
  | subscribe other =>
      by_cases same : other = reader
      · subst same
        simp only [step, Function.update_self, Option.some.injEq] at joined
        exact Or.inl ⟨rfl, joined.symm⟩
      · simp only [step, Function.update_of_ne (Ne.symm same)] at joined
        exact Or.inr ⟨same, joined⟩
  | take other =>
      by_cases same : other = reader
      · subst same
        simp only [step, Function.update_self, Option.map_eq_some_iff] at joined
        obtain ⟨_, _, caughtUp⟩ := joined
        exact Or.inl ⟨rfl, caughtUp.symm⟩
      · simp only [step, Function.update_of_ne (Ne.symm same)] at joined
        exact Or.inr ⟨same, joined⟩

/-- Every reader follows the channel, by induction over the moves. -/
theorem followedBy {moves : List ChannelMove} {reader : Nat} {subscriber : Subscriber}
    (joined : (after moves).readers reader = some subscriber)
    : FollowedBy moves reader subscriber := by
  induction moves using List.reverseRecOn generalizing subscriber with
  | nil => cases joined
  | append_singleton moves move ih =>
      rw [after_concat] at joined
      rcases reader_of_step joined with ⟨catches, rfl⟩ | ⟨behind, before⟩
      · rw [← after_concat]
        exact .of_caughtUp catches
      · have followed := ih before
        cases move with
        | publish generation refresh => exact followed.publish generation refresh
        | subscribe other | take other => exact followed.of_idle rfl behind

/-- A reader that joined stays a reader, by induction over the moves. -/
theorem exists_reader {moves : List ChannelMove} {reader : Nat}
    (joins : .subscribe reader ∈ moves)
    : ∃ subscriber, (after moves).readers reader = some subscriber := by
  induction moves using List.reverseRecOn with
  | nil => cases joins
  | append_singleton moves move ih =>
      rw [after_concat]
      rcases List.mem_append.mp joins with before | last
      · obtain ⟨subscriber, joined⟩ := ih before
        cases move with
        | publish generation refresh => exact ⟨subscriber, joined⟩
        | subscribe other | take other =>
            by_cases same : other = reader
            · subst same
              simp [step, joined]
            · exact ⟨subscriber, by simpa [step, Function.update_of_ne (Ne.symm same)] using joined⟩
      · rw [← List.mem_singleton.mp last]
        simp [step]

-----------------------------------------------------------------------------------------
-- What readers take
-----------------------------------------------------------------------------------------

/-- What is out never becomes older by a move. -/
theorem generation_le_concat (moves : List ChannelMove) (move : ChannelMove)
    : (after moves).publisher.latest.generation
      ≤ (after (moves ++ [move])).publisher.latest.generation := by
  rcases after_carries moves with ⟨_, out⟩ | ⟨generation, refresh, out, isLatest⟩
  · rw [out]
    exact Nat.zero_le _
  · have still : (generation, refresh) ∈ refreshesOf (moves ++ [move]) := by
      rw [refreshesOf_concat]
      exact List.mem_append_left _ isLatest.mem
    rcases after_carries (moves ++ [move]) with ⟨none, _⟩ | ⟨_, _, outNext, isNext⟩
    · simp [none] at still
    · rw [out, outNext]
      exact isNext.greatest _ still

/-- What a reader takes is what is out. -/
theorem answer?_eq {channel : Channel} {reader : Nat} {move : ChannelMove} {published : Published}
    (answered : channel.answer? reader move = some published)
    : published = channel.publisher.latest := by
  cases move with
  | publish | subscribe => cases answered
  | take other =>
      simp only [answer?] at answered
      split at answered
      · obtain ⟨_, _, same⟩ := Option.map_eq_some_iff.mp answered
        exact same.symm
      · cases answered

/-- Nothing that is taken later is older than what is out, by induction over the moves. -/
theorem taken_newer (earlier : List ChannelMove) (reader : Nat) (moves : List ChannelMove)
    : ∀ published ∈ (after earlier).taken reader moves,
        (after earlier).publisher.latest.generation ≤ published.generation := by
  induction moves generalizing earlier with
  | nil => simp [taken]
  | cons move rest ih =>
      intro published member
      rcases List.mem_append.mp member with now | later
      · have same := answer?_eq (Option.mem_toList.mp now)
        exact Nat.le_of_eq (congrArg (·.generation) same.symm)
      · rw [← after_concat] at later
        exact Nat.le_trans (generation_le_concat earlier move) (ih _ published later)

/-- What a reader takes never becomes older, by induction over the moves. -/
theorem taken_pairwise (earlier : List ChannelMove) (reader : Nat) (moves : List ChannelMove)
    : ((after earlier).taken reader moves).Pairwise fun first second =>
        first.generation ≤ second.generation := by
  induction moves generalizing earlier with
  | nil => exact List.Pairwise.nil
  | cons move rest ih =>
      rw [taken, List.pairwise_append, ← after_concat]
      refine ⟨?_, ih _, ?_⟩
      · cases (after earlier).answer? reader move <;> simp
      · intro first now second later
        rw [answer?_eq (Option.mem_toList.mp now)]
        exact Nat.le_trans (generation_le_concat earlier move)
          (taken_newer _ reader rest second later)

/-- A channel after any moves takes a refresh exactly if none before it was of a greater generation.
If there were any, the last of those of the greatest generation is out; so any order of the same
refreshes leads to the same, if their generations are distinct.  Each reader that joined is told of
a change exactly if a refresh was accepted since it joined or took last, and takes what is out; and
what it takes in the course of the moves never becomes older.
-/
theorem after_lastWins (moves : List ChannelMove)
    : (∀ generation refresh,
        ((after moves).publisher.publish generation refresh).1 = true
        ↔ ∀ other ∈ refreshesOf moves, other.1 ≤ generation)
      ∧ (refreshesOf moves ≠ []
        → ∃ generation refresh,
            (after moves).publisher.latest = ⟨generation, some refresh⟩
            ∧ IsLatest (refreshesOf moves) generation refresh)
      ∧ (∀ others,
          (refreshesOf moves).Perm (refreshesOf others)
          → ((refreshesOf moves).map Prod.fst).Nodup
          → (after moves).publisher.latest = (after others).publisher.latest)
      ∧ (∀ reader,
          .subscribe reader ∈ moves
          → ∃ subscriber,
              (after moves).readers reader = some subscriber
              ∧ (subscriber.hasChanged (after moves).publisher = true
                ↔ AcceptedSince moves reader)
              ∧ (subscriber.take (after moves).publisher).1 = (after moves).publisher.latest)
      ∧ ∀ reader,
          (((after []).taken reader moves).map (·.generation)).Pairwise (· ≤ ·) := by
  have carries := after_carries moves
  refine ⟨carries.accepts_iff, ?_, ?_, ?_, ?_⟩
  · intro some
    exact carries.resolve_left fun none => some none.1
  · intro others same distinct
    exact carries.latest_eq_of_perm (after_carries others) same distinct
  · intro reader joins
    obtain ⟨subscriber, joined⟩ := exists_reader joins
    refine ⟨subscriber, joined, ?_, rfl⟩
    rw [Subscriber.hasChanged, bne_iff_ne]
    exact (followedBy joined).misses
  · intro reader
    rw [List.pairwise_map]
    exact taken_pairwise [] reader moves

/-- A reader takes a refresh of the second generation.  One of the first that comes behind it is dropped
without a word to the reader, and had it come before, the same would be out.
-/
theorem after_lastWins_staleRefresh
    : let newer := ({ document := "new" } : ViewState).refresh
      let stale := ({ document := "old" } : ViewState).refresh
      let moves : List ChannelMove :=
        [.subscribe 0, .publish 2 newer, .take 0, .publish 1 stale]
      let others : List ChannelMove := [.publish 1 stale, .publish 2 newer]
      (refreshesOf moves).Perm (refreshesOf others)
      ∧ (after moves).publisher.latest = (after others).publisher.latest
      ∧ (after moves).publisher.latest = ⟨2, some newer⟩
      ∧ ∃ subscriber,
          (after moves).readers 0 = some subscriber
          ∧ subscriber.hasChanged (after moves).publisher = false
          ∧ (subscriber.take (after moves).publisher).1 = ⟨2, some newer⟩ := by
  intro newer stale moves others
  obtain ⟨_, _, anyOrder, readers, _⟩ := after_lastWins moves
  have same : (refreshesOf moves).Perm (refreshesOf others) := List.Perm.swap _ _ []
  have distinct : ((refreshesOf moves).map Prod.fst).Nodup := by
    change [2, 1].Nodup
    decide
  obtain ⟨subscriber, joined, told, takes⟩ := readers 0 (by simp [moves])
  have shown : (after moves).publisher.latest = ⟨2, some newer⟩ := rfl
  refine ⟨same, anyOrder others same distinct, shown, subscriber, joined, ?_, takes.trans shown⟩
  cases joined
  rfl

end Channel

end SyntaxExplorer
