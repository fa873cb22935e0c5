import TimedRelease.Address
import TimedRelease.Call
import TimedRelease.Json.Printer
import TimedRelease.Poller.Timeline

/-!
# Tracking a wallet

Three pollers follow a wallet: its accounts, the gas price and the head of the
chain.  They know nothing of each other and are stopped together.
-/

namespace TimedRelease

/-- A change in what a wallet reports. -/
inductive WalletUpdate where
  | accounts (accounts : List Account)
  | gasPrice (price : Word256)
  | chainHead (block : UInt64)
  deriving DecidableEq

/-- The periods of the three pollers, in milliseconds. -/
structure PollPeriods where
  accounts : Nat
  gasPrice : Nat
  chainHead : Nat
  deriving DecidableEq, Repr

/-- The periods unless others are configured. -/
instance : Inhabited PollPeriods := ⟨⟨5000, 2500, 5000⟩⟩

/-- An answer of a wallet, and how long it takes. -/
structure TimedAnswer (α : Type) where
  delay : Nat
  answer : Except AccountError α

/-- A wallet as it answers poll after poll. -/
structure WalletSource where
  accounts : Nat → TimedAnswer (List Account)
  gasPrice : Nat → TimedAnswer Word256
  chainHead : Nat → TimedAnswer UInt64

namespace TimedAnswer

/-- The poll that an answer makes, given how values are written for comparison.  Its value is
only sent on, which does not panic. -/
def poll {α : Type} (write : α → Json.Value) (timed : TimedAnswer α) : Poll α :=
  ⟨timed.delay,
    match timed.answer with
    | .ok value => .resolved value (some (write value).text)
    | .error _ => .failed,
    false⟩

end TimedAnswer

namespace WalletSource

/-- Accounts as they are compared. -/
def writeAccounts (accounts : List Account) : Json.Value :=
  .array (accounts.map fun account => .string (String.ofList ('0' :: 'x' :: account.digits)))

/-- A price as it is compared. -/
def writePrice (price : Word256) : Json.Value :=
  .string price.hex

/-- A block number as it is compared. -/
def writeBlock (block : UInt64) : Json.Value :=
  .natural block.toNat

end WalletSource

/-- The three pollers of a wallet. -/
structure WalletTracker where
  accounts : Timeline (List Account)
  gasPrice : Timeline Word256
  chainHead : Timeline UInt64

namespace WalletTracker

/-- A tracker that is about to start. -/
def start (periods : PollPeriods) : WalletTracker :=
  ⟨.start periods.accounts .resolution, .start periods.gasPrice .resolution,
    .start periods.chainHead .resolution⟩

/-- Puts news in order of time; news of one instant stays in the order given. -/
def inOrder (news : List (Nat × WalletUpdate)) : List (Nat × WalletUpdate) :=
  news.mergeSort fun first second => first.1 ≤ second.1

/-- One step of a script: what the owner does to all three pollers, then the clock. -/
def step (source : WalletSource) (tracker : WalletTracker) (control : Control)
    (clock : ClockStep) : WalletTracker × List (Nat × WalletUpdate) :=
  let (accounts, accountNews) := tracker.accounts.step
    (fun number => (source.accounts number).poll WalletSource.writeAccounts) control clock
  let (gasPrice, priceNews) := tracker.gasPrice.step
    (fun number => (source.gasPrice number).poll WalletSource.writePrice) control clock
  let (chainHead, headNews) := tracker.chainHead.step
    (fun number => (source.chainHead number).poll WalletSource.writeBlock) control clock
  (⟨accounts, gasPrice, chainHead⟩,
    inOrder (accountNews.map (·.map id .accounts) ++ priceNews.map (·.map id .gasPrice) ++
      headNews.map (·.map id .chainHead)))

/-- What a script sends, and when. -/
def run (source : WalletSource) (tracker : WalletTracker) :
    List (Control × ClockStep) → WalletTracker × List (Nat × WalletUpdate)
  | [] => (tracker, [])
  | (control, clock) :: rest =>
    let (next, news) := tracker.step source control clock
    let (last, later) := next.run source rest
    (last, news ++ later)

end WalletTracker

end TimedRelease
