import TimedRelease.Condition

/-!
# Releases and their subscribers

A release is a condition as an object of its own: two releases are the same only
when their stamps are, however alike their conditions.  A channel holds the
release in effect; publishing tells the subscribers, replacing does not.
-/

namespace TimedRelease

/-- Where a release comes from: issued by an editor, or supplied from outside. -/
inductive Stamp where
  | issued (serial : Nat)
  | supplied (serial : Nat)
  deriving DecidableEq, Repr

/-- A condition as an object of its own. -/
structure Release where
  stamp : Stamp
  condition : Condition
  deriving DecidableEq, Repr

/-- The release in effect, and how often subscribers have been told of one. -/
structure Channel where
  value : Release
  version : Nat
  deriving DecidableEq, Repr

/-- A subscriber, by the last version it has taken note of. -/
structure Receiver where
  noted : Nat
  deriving DecidableEq, Repr

namespace Channel

/-- Puts a release into effect and tells the subscribers. -/
def publish (channel : Channel) (release : Release) : Channel :=
  ⟨release, channel.version + 1⟩

/-- Puts a release into effect and tells nobody. -/
def replace (channel : Channel) (release : Release) : Channel :=
  { channel with value := release }

/-- A new subscriber, who has taken note of all that was published. -/
def subscribe (channel : Channel) : Receiver :=
  ⟨channel.version⟩

end Channel

namespace Receiver

/-- The subscriber has been told of something it has not taken note of. -/
def isNotified (receiver : Receiver) (channel : Channel) : Bool :=
  receiver.noted != channel.version

end Receiver

end TimedRelease
