import BenchLog.Grouping
import Mathlib.Data.List.Perm.Subperm

/-!
# How the groupings make each other up

All transactions are the committed ones and the aborted ones, and the aborted ones are those that write
and those that only read. The latencies of a grouping that is made up of two others are therefore an
interleaving of theirs, in whatever order the entries come (`Entry.interleaves_latencies`).
-/

namespace BenchLog

/-- The members of two lists, each list in its own order, make up a third one. -/
inductive Interleaves {α : Type} : List α → List α → List α → Prop
  | nil : Interleaves [] [] []
  | left {a : α} {left right whole : List α} (rest : Interleaves left right whole) :
      Interleaves (a :: left) right (a :: whole)
  | right {a : α} {left right whole : List α} (rest : Interleaves left right whole) :
      Interleaves left (a :: right) (a :: whole)

namespace Interleaves

variable {α β : Type} {left right whole : List α}

theorem map (f : α → β) (h : Interleaves left right whole) :
    Interleaves (left.map f) (right.map f) (whole.map f) := by
  induction h with
  | nil => exact .nil
  | left _ ih => exact .left ih
  | right _ ih => exact .right ih

/-- An interleaving holds what the two lists hold, each as often. -/
theorem perm (h : Interleaves left right whole) : whole.Perm (left ++ right) := by
  induction h with
  | nil => exact .refl _
  | left _ ih => exact ih.cons _
  | right _ ih => exact (ih.cons _).trans List.perm_middle.symm

/-- Two conditions that exclude each other cut what meets either of them in two. -/
theorem filter_or {p q : α → Bool} (disjoint : ∀ a, p a = true → q a = false) (items : List α) :
    Interleaves (items.filter p) (items.filter q) (items.filter fun a => p a || q a) := by
  induction items with
  | nil => exact .nil
  | cons a items ih =>
      cases hp : p a with
      | true =>
          simp only [List.filter_cons, hp, disjoint a hp, Bool.true_or, if_true,
            Bool.false_eq_true, if_false]
          exact .left ih
      | false =>
          cases hq : q a with
          | true =>
              simp only [List.filter_cons, hp, hq, Bool.or_true, if_true, Bool.false_eq_true,
                if_false]
              exact .right ih
          | false =>
              simp only [List.filter_cons, hp, hq, Bool.or_false, Bool.false_eq_true, if_false]
              exact ih

end Interleaves

namespace Grouping

/-- Every transaction of a grouping belongs to exactly one of two others, and they have no others. -/
structure Splits (tracked : Tracked) (whole left right : Grouping) : Prop where
  covers : ∀ entry,
    whole.holds tracked entry = (left.holds tracked entry || right.holds tracked entry)
  disjoint : ∀ entry, left.holds tracked entry = true → right.holds tracked entry = false

theorem splits_all (tracked : Tracked) : Splits tracked .all .committed .aborted := by
  refine ⟨?_, ?_⟩
  · intro entry
    cases h : entry.outcome <;> simp [holds, h]
  · intro entry hcommitted
    simpa [holds] using hcommitted

theorem splits_aborted (tracked : Tracked) : Splits tracked .aborted .writeAborted .readAborted := by
  refine ⟨?_, ?_⟩
  · intro entry
    cases h : entry.outcome <;> simp [holds, h]
  · intro entry hwrite
    have houtcome : entry.outcome = .writeAborted := by simpa [holds] using hwrite
    simp [holds, houtcome]

theorem committed_of_follow {tracked : Tracked} {entry : Entry}
    (h : follow.holds tracked entry = true) : committed.holds tracked entry = true := by
  simp only [holds, Bool.and_eq_true] at h ⊢
  exact h.1

theorem committed_of_tweet {tracked : Tracked} {entry : Entry}
    (h : tweet.holds tracked entry = true) : committed.holds tracked entry = true := by
  simp only [holds, Bool.and_eq_true] at h ⊢
  exact h.1

/-- No transaction is of two kinds. -/
theorem not_tweet_of_follow {tracked : Tracked} (h : tracked.follow ≠ tracked.tweet) (entry : Entry)
    (hfollow : follow.holds tracked entry = true) : tweet.holds tracked entry = false := by
  have hkind : entry.kind = tracked.follow := by
    simp only [holds, Bool.and_eq_true, beq_iff_eq] at hfollow
    exact hfollow.2
  simp [holds, hkind, h]

end Grouping

namespace Entry

/-- The latencies that a grouping has among some entries, in the order of the entries. -/
def latencies (tracked : Tracked) (grouping : Grouping) (entries : List Entry) : List Nat :=
  (entries.filter (grouping.holds tracked)).map Entry.latency

variable {tracked : Tracked}

theorem interleaves_latencies {whole left right : Grouping}
    (h : Grouping.Splits tracked whole left right) (entries : List Entry) :
    Interleaves (latencies tracked left entries) (latencies tracked right entries)
      (latencies tracked whole entries) := by
  have hwhole : whole.holds tracked =
      fun entry => left.holds tracked entry || right.holds tracked entry := funext h.covers
  rw [latencies, latencies, latencies, hwhole]
  exact (Interleaves.filter_or h.disjoint entries).map Entry.latency

theorem sublist_latencies {part whole : Grouping}
    (h : ∀ entry, part.holds tracked entry = true → whole.holds tracked entry = true)
    (entries : List Entry) :
    (latencies tracked part entries).Sublist (latencies tracked whole entries) :=
  (List.monotone_filter_right entries h).map Entry.latency

/-- If the tracked kinds differ, what they have together lies among the committed transactions. -/
theorem subperm_tracked (h : tracked.follow ≠ tracked.tweet) (entries : List Entry) :
    (latencies tracked .follow entries ++ latencies tracked .tweet entries).Subperm
      (latencies tracked .committed entries) := by
  have hboth := Interleaves.filter_or (Grouping.not_tweet_of_follow h) entries
  have hperm := (hboth.map Entry.latency).perm
  have hsublist := List.monotone_filter_right entries
    (p := fun entry => Grouping.follow.holds tracked entry || Grouping.tweet.holds tracked entry)
    (q := Grouping.committed.holds tracked) (by
      intro entry heither
      rcases Bool.or_eq_true_iff.mp heither with hfollow | htweet
      · exact Grouping.committed_of_follow hfollow
      · exact Grouping.committed_of_tweet htweet)
  exact hperm.symm.subperm.trans (hsublist.map Entry.latency).subperm

end Entry

end BenchLog
