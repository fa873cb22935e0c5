import TimedRelease.Proofs.Poller.Cancellation
import TimedRelease.Proofs.Poller.Dates
import TimedRelease.Tracker

/-!
# The three kinds of news

A tracker is three pollers side by side, one for each kind of news.  In every script
the news of a kind is what the poller of that kind hands on, dates included: what the
others do has no part in it.
-/

namespace TimedRelease

/-- What a tracker follows. -/
inductive NewsKind where
  | accounts
  | gasPrice
  | chainHead
  deriving DecidableEq, Repr

/-- The values of a kind. -/
def NewsKind.Value : NewsKind → Type
  | .accounts => List Account
  | .gasPrice => Word256
  | .chainHead => UInt64

/-- The news of a value. -/
def NewsKind.update : (kind : NewsKind) → kind.Value → WalletUpdate
  | .accounts => .accounts
  | .gasPrice => .gasPrice
  | .chainHead => .chainHead

/-- The value that is news, if it is of this kind. -/
def WalletUpdate.value? : (kind : NewsKind) → WalletUpdate → Option kind.Value
  | .accounts, .accounts value => some value
  | .gasPrice, .gasPrice value => some value
  | .chainHead, .chainHead value => some value
  | _, _ => none

@[simp] theorem WalletUpdate.value?_update (kind : NewsKind) (value : kind.Value) :
    (kind.update value).value? kind = some value := by
  cases kind <;> rfl

theorem WalletUpdate.value?_update_of_ne {kind other : NewsKind} (different : other ≠ kind)
    (value : other.Value) : (other.update value).value? kind = none := by
  cases kind <;> cases other <;> simp_all [NewsKind.update, value?]

/-- The polls of a kind. -/
def WalletSource.polls (source : WalletSource) : (kind : NewsKind) → Nat → Poll kind.Value
  | .accounts => fun number => (source.accounts number).poll writeAccounts
  | .gasPrice => fun number => (source.gasPrice number).poll writePrice
  | .chainHead => fun number => (source.chainHead number).poll writeBlock

namespace WalletTracker

/-- The poller of a kind. -/
def timeline (tracker : WalletTracker) : (kind : NewsKind) → Timeline kind.Value
  | .accounts => tracker.accounts
  | .gasPrice => tracker.gasPrice
  | .chainHead => tracker.chainHead

/-- The dated news of one kind. -/
def newsOf (kind : NewsKind) (news : List (Nat × WalletUpdate)) : List (Nat × kind.Value) :=
  news.filterMap fun (time, update) => (update.value? kind).map (time, ·)

theorem newsOf_append (kind : NewsKind) (earlier later : List (Nat × WalletUpdate)) :
    newsOf kind (earlier ++ later) = newsOf kind earlier ++ newsOf kind later :=
  List.filterMap_append

theorem newsOf_same (kind : NewsKind) (values : List (Nat × kind.Value)) :
    newsOf kind (values.map (·.map id kind.update)) = values := by
  induction values with
  | nil => rfl
  | cons value rest induction =>
      rw [newsOf] at induction ⊢
      rw [List.map_cons, List.filterMap_cons, induction]
      simp

theorem newsOf_other {kind other : NewsKind} (different : other ≠ kind)
    (values : List (Nat × other.Value)) :
    newsOf kind (values.map (·.map id other.update)) = [] := by
  simp [newsOf, List.filterMap_map, WalletUpdate.value?_update_of_ne different]

/-- Putting news in order of time leaves alone what is in order already. -/
theorem filter_inOrder {news : List (Nat × WalletUpdate)}
    {chosen : Nat × WalletUpdate → Bool}
    (ordered : (news.filter chosen).Pairwise (·.1 ≤ ·.1)) :
    (inOrder news).filter chosen = news.filter chosen := by
  let before (first second : Nat × WalletUpdate) : Bool := first.1 ≤ second.1
  have transitive : ∀ first second third, before first second = true →
      before second third = true → before first third = true := by
    intro first second third earlier later
    simp only [before, decide_eq_true_eq] at *
    exact Nat.le_trans earlier later
  have total : ∀ first second, (before first second || before second first) = true := by
    intro first second
    simpa [before] using Nat.le_total first.1 second.1
  have within : (news.filter chosen).Sublist (inOrder news) := by
    apply List.sublist_mergeSort transitive total
    · simpa [before] using ordered
    · exact List.filter_sublist
  have kept : (news.filter chosen).Sublist ((inOrder news).filter chosen) := by
    simpa [List.filter_filter] using within.filter chosen
  have sameLength : (news.filter chosen).length = ((inOrder news).filter chosen).length :=
    ((List.mergeSort_perm news _).filter chosen).symm.length_eq
  exact (kept.eq_of_length sameLength).symm

/-- News of one kind that is in order stays as it is when all news is put in order. -/
theorem newsOf_inOrder {kind : NewsKind} {news : List (Nat × WalletUpdate)}
    (ordered : (newsOf kind news).Pairwise (·.1 ≤ ·.1)) :
    newsOf kind (inOrder news) = newsOf kind news := by
  let chosen (entry : Nat × WalletUpdate) : Bool := (entry.2.value? kind).isSome
  have ofChosen (others : List (Nat × WalletUpdate)) :
      newsOf kind others = newsOf kind (others.filter chosen) := by
    rw [newsOf, newsOf, List.filterMap_filter]
    congr 1
    funext entry
    cases found : entry.2.value? kind <;> simp [chosen, found]
  have chosenOrdered : (news.filter chosen).Pairwise (·.1 ≤ ·.1) := by
    rw [newsOf, List.pairwise_filterMap] at ordered
    apply List.pairwise_filter.mpr
    apply ordered.imp
    intro first second bound firstChosen secondChosen
    obtain ⟨firstValue, firstFound⟩ := Option.isSome_iff_exists.mp firstChosen
    obtain ⟨secondValue, secondFound⟩ := Option.isSome_iff_exists.mp secondChosen
    exact bound (first.1, firstValue) (by simp [firstFound])
      (second.1, secondValue) (by simp [secondFound])
  rw [ofChosen, filter_inOrder chosenOrdered, ← ofChosen]

theorem timeline_step (source : WalletSource) (tracker : WalletTracker) (control : Control)
    (clock : ClockStep) (kind : NewsKind) :
    (tracker.step source control clock).1.timeline kind =
      ((tracker.timeline kind).step (source.polls kind) control clock).1 := by
  cases kind <;> rfl

/-- What the poller of a kind hands on in a step, as news. -/
def newsIn (tracker : WalletTracker) (source : WalletSource) (control : Control)
    (clock : ClockStep) (kind : NewsKind) : List (Nat × WalletUpdate) :=
  ((tracker.timeline kind).step (source.polls kind) control clock).2.map
    (·.map id kind.update)

theorem news_step (source : WalletSource) (tracker : WalletTracker) (control : Control)
    (clock : ClockStep) :
    (tracker.step source control clock).2 =
      inOrder (tracker.newsIn source control clock .accounts ++
        tracker.newsIn source control clock .gasPrice ++
        tracker.newsIn source control clock .chainHead) := rfl

theorem newsOf_step (source : WalletSource) {tracker : WalletTracker} {kind : NewsKind}
    (ordered : InDueOrder (tracker.timeline kind).flights) (control : Control)
    (clock : ClockStep) :
    newsOf kind (tracker.step source control clock).2 =
      ((tracker.timeline kind).step (source.polls kind) control clock).2 := by
  let news := tracker.newsIn source control clock
  have own : newsOf kind (news .accounts ++ news .gasPrice ++ news .chainHead) =
      ((tracker.timeline kind).step (source.polls kind) control clock).2 := by
    rw [newsOf_append, newsOf_append]
    cases kind <;> simp [news, newsIn, newsOf_same, newsOf_other]
  have dated : (newsOf kind
      (news .accounts ++ news .gasPrice ++ news .chainHead)).Pairwise (·.1 ≤ ·.1) := by
    rw [own]
    exact Timeline.dates_step ordered control clock
  rw [news_step, newsOf_inOrder dated, own]

theorem run_cons (source : WalletSource) (tracker : WalletTracker)
    (entry : Control × ClockStep) (rest : List (Control × ClockStep)) :
    tracker.run source (entry :: rest) =
      (((tracker.step source entry.1 entry.2).1.run source rest).1,
        (tracker.step source entry.1 entry.2).2 ++
          ((tracker.step source entry.1 entry.2).1.run source rest).2) := rfl

theorem timeline_run (source : WalletSource) (tracker : WalletTracker)
    (script : List (Control × ClockStep)) (kind : NewsKind) :
    (tracker.run source script).1.timeline kind =
      ((tracker.timeline kind).run (source.polls kind) script).1 := by
  induction script generalizing tracker with
  | nil => rfl
  | cons entry rest induction =>
      rw [run_cons, induction, timeline_step]
      rfl

/-- The news of a kind in a script is what the poller of that kind hands on, and when. -/
theorem newsOf_run (source : WalletSource) {tracker : WalletTracker} {kind : NewsKind}
    (ordered : InDueOrder (tracker.timeline kind).flights)
    (script : List (Control × ClockStep)) :
    newsOf kind (tracker.run source script).2 =
      ((tracker.timeline kind).run (source.polls kind) script).2 := by
  induction script generalizing tracker with
  | nil => rfl
  | cons entry rest induction =>
      have next : InDueOrder
          ((tracker.step source entry.1 entry.2).1.timeline kind).flights := by
        rw [timeline_step]
        exact Timeline.inDueOrder_step ordered entry.1 entry.2
      rw [run_cons, newsOf_append, newsOf_step source ordered, induction next,
        timeline_step, Timeline.run_cons]

end WalletTracker

end TimedRelease
