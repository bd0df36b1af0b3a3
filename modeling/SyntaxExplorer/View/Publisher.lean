import SyntaxExplorer.View.State
/-!
The channel that carries refreshes to the view.  Only the latest counts, and none that was made from an
older tree takes its place.
-/

namespace SyntaxExplorer

/-- The latest refresh, with the generation of the tree that it was made from. -/
structure Published where
  generation : Nat := 0
  refresh : Option Refresh := none
  deriving BEq, DecidableEq, Repr, Inhabited

/-- A channel: what is out, and how often that changed. -/
structure Publisher where
  latest : Published := {}
  version : Nat := 0
  deriving BEq, DecidableEq, Repr, Inhabited

/-- A reader of a channel, with the version that it saw last. -/
structure Subscriber where
  seen : Nat := 0
  deriving BEq, DecidableEq, Repr, Inhabited

namespace Publisher

/-- Whether a refresh is older than what is out. -/
def isStale (publisher : Publisher) (generation : Nat) : Bool :=
  publisher.latest.refresh.isSome && generation < publisher.latest.generation

/-- Publishes a refresh unless it is stale, and says whether it was published. -/
def publish (publisher : Publisher) (generation : Nat) (refresh : Refresh) : Bool × Publisher :=
  if publisher.isStale generation then (false, publisher)
  else (true, ⟨⟨generation, some refresh⟩, publisher.version + 1⟩)

/-- A reader that has seen all that was published so far. -/
def subscribe (publisher : Publisher) : Subscriber := ⟨publisher.version⟩

end Publisher

namespace Subscriber

/-- Whether something was published that the reader did not see. -/
def hasChanged (subscriber : Subscriber) (publisher : Publisher) : Bool :=
  subscriber.seen != publisher.version

/-- What is out, which the reader has seen from now on. -/
def take (_ : Subscriber) (publisher : Publisher) : Published × Subscriber :=
  (publisher.latest, ⟨publisher.version⟩)

end Subscriber

end SyntaxExplorer
