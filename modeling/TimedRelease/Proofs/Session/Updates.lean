import TimedRelease.Digest.Keccak
import TimedRelease.Proofs.Draft.Fields
import TimedRelease.Proofs.Tracker.Interleaving
import TimedRelease.Session

/-!
# News of a wallet in any order

The three kinds of news touch parts of a session that have nothing to do with each other:
the accounts on offer and the sender, the gas prices on offer and the chosen one, and the
floor of block numbers.  So updates of different kinds may change places, and a session
does not depend on how the news of three pollers are interleaved.
-/

namespace TimedRelease

/-- The kind of an update. -/
def WalletUpdate.kind : WalletUpdate → NewsKind
  | .accounts _ => .accounts
  | .gasPrice _ => .gasPrice
  | .chainHead _ => .chainHead

@[simp] theorem NewsKind.kind_update (kind : NewsKind) (value : kind.Value) :
    (kind.update value).kind = kind := by
  cases kind <;> rfl

theorem WalletUpdate.exists_eq_update (update : WalletUpdate) :
    ∃ kind value, update = NewsKind.update kind value := by
  cases update with
  | accounts accounts => exact ⟨.accounts, accounts, rfl⟩
  | gasPrice price => exact ⟨.gasPrice, price, rfl⟩
  | chainHead block => exact ⟨.chainHead, block, rfl⟩

/-- The updates of a kind, in order. -/
def newsOfKind (updates : List WalletUpdate) (kind : NewsKind) : List WalletUpdate :=
  (valuesOf kind updates).map kind.update

theorem newsOfKind_cons_same (kind : NewsKind) (value : kind.Value)
    (rest : List WalletUpdate) :
    newsOfKind (kind.update value :: rest) kind = kind.update value :: newsOfKind rest kind := by
  simp [newsOfKind, valuesOf]

theorem newsOfKind_cons_other {kind other : NewsKind} (different : other ≠ kind)
    (value : other.Value) (rest : List WalletUpdate) :
    newsOfKind (other.update value :: rest) kind = newsOfKind rest kind := by
  simp [newsOfKind, valuesOf, WalletUpdate.value?_update_of_ne different]

theorem Draft.applyGasPrice_applyAccounts [Digest.Hash] (draft : Draft)
    (accounts : List Account) (price : Word256) :
    (draft.applyAccounts accounts).applyGasPrice price =
      (draft.applyGasPrice price).applyAccounts accounts := by
  rw [applyGasPrice_eq, applyGasPrice_eq]
  rfl

/-- What no news of a wallet touches. -/
structure Spared (before after : Session) : Prop where
  current : after.editor.current = before.editor.current
  channel : after.editor.channel = before.editor.channel
  mode : after.editor.mode = before.editor.mode
  time : after.editor.time = before.editor.time
  input : after.editor.block.input = before.editor.block.input
  parsed : after.editor.block.parsed = before.editor.block.parsed
  raw : after.raw = before.raw
  recipient : after.draft.recipient = before.draft.recipient
  value : after.draft.value = before.draft.value
  gasLimit : after.draft.gasLimit = before.draft.gasLimit
  data : after.draft.data = before.draft.data

namespace Spared

theorem refl (session : Session) : Spared session session := by
  constructor <;> rfl

theorem trans {first second third : Session} (earlier : Spared first second)
    (later : Spared second third) : Spared first third where
  current := later.current.trans earlier.current
  channel := later.channel.trans earlier.channel
  mode := later.mode.trans earlier.mode
  time := later.time.trans earlier.time
  input := later.input.trans earlier.input
  parsed := later.parsed.trans earlier.parsed
  raw := later.raw.trans earlier.raw
  recipient := later.recipient.trans earlier.recipient
  value := later.value.trans earlier.value
  gasLimit := later.gasLimit.trans earlier.gasLimit
  data := later.data.trans earlier.data

end Spared

namespace Session

section

variable [Digest.Hash]

/-- Takes over updates one after the other. -/
def applyUpdates (session : Session) (updates : List WalletUpdate) : Session :=
  updates.foldl applyUpdate session

@[simp] theorem applyUpdates_nil (session : Session) : session.applyUpdates [] = session := rfl

@[simp] theorem applyUpdates_cons (session : Session) (update : WalletUpdate)
    (rest : List WalletUpdate) :
    session.applyUpdates (update :: rest) = (session.applyUpdate update).applyUpdates rest :=
  rfl

theorem spared_applyUpdate (session : Session) (update : WalletUpdate) :
    Spared session (session.applyUpdate update) := by
  cases update with
  | accounts accounts => constructor <;> rfl
  | gasPrice price =>
      rw [applyUpdate, Draft.applyGasPrice_eq]
      constructor <;> rfl
  | chainHead block => constructor <;> rfl

theorem spared_applyUpdates (session : Session) (updates : List WalletUpdate) :
    Spared session (session.applyUpdates updates) := by
  induction updates generalizing session with
  | nil => exact .refl session
  | cons update rest induction =>
      exact (session.spared_applyUpdate update).trans (induction _)

theorem applyUpdate_comm (session : Session) {first second : WalletUpdate}
    (different : first.kind ≠ second.kind) :
    (session.applyUpdate first).applyUpdate second =
      (session.applyUpdate second).applyUpdate first := by
  cases first with
  | accounts accounts =>
      cases second with
      | accounts _ => contradiction
      | gasPrice price => simp [applyUpdate, Draft.applyGasPrice_applyAccounts]
      | chainHead block => rfl
  | gasPrice price =>
      cases second with
      | accounts accounts => simp [applyUpdate, Draft.applyGasPrice_applyAccounts]
      | gasPrice _ => contradiction
      | chainHead block => rfl
  | chainHead block =>
      cases second with
      | accounts accounts => rfl
      | gasPrice price => rfl
      | chainHead _ => contradiction

theorem applyUpdates_newsOfKind_comm (session : Session) {update : WalletUpdate}
    {kind : NewsKind} (different : update.kind ≠ kind) (values : List kind.Value) :
    (session.applyUpdate update).applyUpdates (values.map kind.update) =
      (session.applyUpdates (values.map kind.update)).applyUpdate update := by
  induction values generalizing session with
  | nil => rfl
  | cons value rest induction =>
      have swap : (session.applyUpdate update).applyUpdate (kind.update value) =
          (session.applyUpdate (kind.update value)).applyUpdate update :=
        session.applyUpdate_comm (by simpa using different)
      rw [List.map_cons, applyUpdates_cons, applyUpdates_cons, swap, induction]

/-- Whatever their order, updates come to the same as all the accounts first, then all the
gas prices, and all the heights of the chain last. -/
theorem applyUpdates_eq_grouped (session : Session) (updates : List WalletUpdate) :
    session.applyUpdates updates =
      ((session.applyUpdates (newsOfKind updates .accounts)).applyUpdates
        (newsOfKind updates .gasPrice)).applyUpdates (newsOfKind updates .chainHead) := by
  -- The first update is taken over before all others; what stands before the updates of
  -- its kind in the groups is of other kinds, so that it may go there instead.
  induction updates generalizing session with
  | nil => rfl
  | cons update rest induction =>
      obtain ⟨kind, value, rfl⟩ := update.exists_eq_update
      rw [applyUpdates_cons, induction]
      cases kind with
      | accounts =>
          rw [newsOfKind_cons_same .accounts, newsOfKind_cons_other (by decide),
            newsOfKind_cons_other (by decide), applyUpdates_cons]
      | gasPrice =>
          rw [newsOfKind_cons_same .gasPrice, newsOfKind_cons_other (by decide),
            newsOfKind_cons_other (by decide), applyUpdates_cons, newsOfKind,
            applyUpdates_newsOfKind_comm session (by simp)]
      | chainHead =>
          rw [newsOfKind_cons_same .chainHead, newsOfKind_cons_other (by decide),
            newsOfKind_cons_other (by decide), applyUpdates_cons, newsOfKind, newsOfKind,
            applyUpdates_newsOfKind_comm session (by simp),
            applyUpdates_newsOfKind_comm _ (by simp)]

/-- In every session three sequences of news, interleaved in any two ways that keep the
order inside each sequence, end in the same session; and none of them touches the
condition in effect, its channel, what is typed for it, the raw transaction, or what is
typed for recipient, value, gas limit and data. -/
theorem updates_in_any_order (session : Session) (news : (kind : NewsKind) → List kind.Value)
    {first second : List WalletUpdate} (firstOrder : ∀ kind, valuesOf kind first = news kind)
    (secondOrder : ∀ kind, valuesOf kind second = news kind) :
    session.applyUpdates first = session.applyUpdates second ∧
      Spared session (session.applyUpdates first) := by
  have sameNews (kind : NewsKind) : newsOfKind first kind = newsOfKind second kind := by
    rw [newsOfKind, newsOfKind, firstOrder, secondOrder]
  refine ⟨?_, session.spared_applyUpdates first⟩
  calc
    session.applyUpdates first =
        ((session.applyUpdates (newsOfKind first .accounts)).applyUpdates
          (newsOfKind first .gasPrice)).applyUpdates (newsOfKind first .chainHead) :=
      session.applyUpdates_eq_grouped first
    _ = ((session.applyUpdates (newsOfKind second .accounts)).applyUpdates
          (newsOfKind second .gasPrice)).applyUpdates (newsOfKind second .chainHead) := by
      rw [sameNews, sameNews, sameNews]
    _ = session.applyUpdates second := (session.applyUpdates_eq_grouped second).symm

end

/-- A wallet reports its account, loses it, and reports two gas prices and two heights; the
news of the chain come first or last. -/
theorem chain_news_first_or_last :
    let account : Account := ⟨Vector.replicate 20 0x11⟩
    let session := start (.start 1700000000 100 Editor.defaultDelay) true
    let news : (kind : NewsKind) → List kind.Value
      | .accounts => [[account], []]
      | .gasPrice => [Word256.saturating 20000000000, Word256.saturating 30000000000]
      | .chainHead => [(150 : UInt64), (149 : UInt64)]
    let first : List WalletUpdate := [.chainHead 150, .chainHead 149, .accounts [account],
      .gasPrice (Word256.saturating 20000000000), .accounts [],
      .gasPrice (Word256.saturating 30000000000)]
    let second : List WalletUpdate := [.gasPrice (Word256.saturating 20000000000),
      .accounts [account], .gasPrice (Word256.saturating 30000000000), .accounts [],
      .chainHead 150, .chainHead 149]
    (∀ kind, valuesOf kind first = news kind) ∧ (∀ kind, valuesOf kind second = news kind) ∧
      session.applyUpdates first = session.applyUpdates second ∧
      Spared session (session.applyUpdates first) := by
  intro account session news first second
  have firstOrder (kind : NewsKind) : valuesOf kind first = news kind := by
    cases kind <;> rfl
  have secondOrder (kind : NewsKind) : valuesOf kind second = news kind := by
    cases kind <;> rfl
  exact ⟨firstOrder, secondOrder,
    updates_in_any_order session news firstOrder secondOrder⟩

end Session

end TimedRelease
