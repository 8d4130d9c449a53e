import BenchLog.Entry

/-!
# Groupings

Latencies are collected in seven groupings: all transactions, those that committed or were aborted, the
aborted ones by whether they write, and the committed ones of two kinds that are tracked. `Groups.get`
is the view of a collection; two collections with the same view are equal (`Groups.ext_get`).
-/

namespace BenchLog

/-- The two kinds of work whose committed transactions are summarized apart. -/
structure Tracked where
  follow : Int := 2
  tweet : Int := 3
  deriving DecidableEq, Repr

/-- A class of transactions. -/
inductive Grouping where
  | all
  | committed
  | aborted
  | writeAborted
  | readAborted
  | follow
  | tweet
  deriving DecidableEq, Repr

/-- Whether a transaction belongs to a grouping. -/
def Grouping.holds (grouping : Grouping) (tracked : Tracked) (entry : Entry) : Bool :=
  match grouping with
  | .all => true
  | .committed => entry.outcome == .committed
  | .aborted => entry.outcome != .committed
  | .writeAborted => entry.outcome == .writeAborted
  | .readAborted => entry.outcome == .readAborted
  | .follow => entry.outcome == .committed && entry.kind == tracked.follow
  | .tweet => entry.outcome == .committed && entry.kind == tracked.tweet

/-- One value for each grouping. -/
structure Groups (α : Type) where
  all : α
  committed : α
  aborted : α
  writeAborted : α
  readAborted : α
  follow : α
  tweet : α
  deriving DecidableEq, Repr

namespace Groups

variable {α β : Type}

/-- The value of a grouping. -/
def get (groups : Groups α) : Grouping → α
  | .all => groups.all
  | .committed => groups.committed
  | .aborted => groups.aborted
  | .writeAborted => groups.writeAborted
  | .readAborted => groups.readAborted
  | .follow => groups.follow
  | .tweet => groups.tweet

/-- The groups with the given values. -/
def ofFn (value : Grouping → α) : Groups α where
  all := value .all
  committed := value .committed
  aborted := value .aborted
  writeAborted := value .writeAborted
  readAborted := value .readAborted
  follow := value .follow
  tweet := value .tweet

/-- The groups with each value replaced. -/
def map (f : α → β) (groups : Groups α) : Groups β :=
  ofFn fun grouping => f (groups.get grouping)

@[simp] theorem get_ofFn (value : Grouping → α) (grouping : Grouping) :
    (ofFn value).get grouping = value grouping := by
  cases grouping <;> rfl

@[simp] theorem get_map (f : α → β) (groups : Groups α) (grouping : Grouping) :
    (groups.map f).get grouping = f (groups.get grouping) := by
  simp [map]

theorem ext_get {left right : Groups α} (h : ∀ grouping, left.get grouping = right.get grouping) :
    left = right := by
  cases left
  cases right
  simp only [mk.injEq]
  exact ⟨h .all, h .committed, h .aborted, h .writeAborted, h .readAborted, h .follow, h .tweet⟩

end Groups

end BenchLog
