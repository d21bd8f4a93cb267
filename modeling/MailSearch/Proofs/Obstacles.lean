import MailSearch.Proofs.LargestParts

/-!
# What keeps a tree from being lowered

Two properties of a tree are worked out from those of its sides: whether the index alone can answer
it (`Query.isTextual`) and whether there is an exclusion in it (`Query.hasExclusion`). Lowering does
not look at them. It has a case analysis of its own, and condensing relies on the two being of one
mind. `lower_iff_isTextual`: they are, on every tree.

An obstacle is a part that cannot be lowered whatever stands in it: an exclusion, or a leaf that is
no text leaf (`Query.obstacle?`). A tree has none exactly if it can be folded
(`Query.isNone_obstacle`), and otherwise lowering reports the first one, in the order in which it
goes through the tree (`Query.lower_of_obstacle`).
-/

namespace MailSearch

namespace Query

/-- Why a part of a tree cannot be lowered, if it is not for a part of its own. -/
def obstacle? : Query → Option Violation
  | and .. | or .. | text .. => none
  | butNot l r => some (.exclusionInFullText (butNot l r))
  | flag f status => some (.notTextual (flag f status))
  | attachment => some (.notTextual attachment)
  | date phrase direction => some (.notTextual (date phrase direction))
  | fullText raw => some (.notTextual (fullText raw))

/-- The first obstacle in a tree. A join comes before its sides, and the left side before the right
one. -/
def firstObstacle? (q : Query) : Option Violation :=
  q.parts.findSome? obstacle?

variable {q l r : Query}

/-! ## The two properties -/

/-- A tree is textual if all its leaves are text leaves. -/
theorem isTextual_iff : q.isTextual ↔ ∀ leaf ∈ q.leaves, ∃ f w, leaf = text f w := by
  induction q with
  | and l r ihl ihr | or l r ihl ihr | butNot l r ihl ihr =>
    simp only [isTextual, Bool.and_eq_true, ihl, ihr, leaves, List.forall_mem_append]
  | text | flag | attachment | date | fullText => simp [isTextual, leaves]

/-- A tree has an exclusion if one of its parts is one. -/
theorem hasExclusion_iff : q.hasExclusion ↔ ∃ l r, butNot l r ∈ q.parts := by
  induction q with
  | and l r ihl ihr | or l r ihl ihr =>
    simp only [hasExclusion, Bool.or_eq_true, ihl, ihr, parts, List.mem_cons, List.mem_append,
      reduceCtorEq, false_or, exists_or]
  | butNot l r =>
    simp only [hasExclusion, true_iff]
    exact ⟨l, r, .head _⟩
  | text | flag | attachment | date | fullText => simp [hasExclusion, parts]

/-- What can be folded into one text has no leaf but texts, and excludes nothing. -/
theorem isFoldable_iff : q.isFoldable ↔ q.isTextual = true ∧ q.hasExclusion = false := by
  rw [isFoldable, Bool.and_eq_true, Bool.not_eq_true']

/-! ## The first obstacle -/

/-- A join that is no obstacle itself has the first obstacle of its sides. -/
theorem firstObstacle?_join (hparts : q.parts = q :: (l.parts ++ r.parts))
    (hq : q.obstacle? = none) : q.firstObstacle? = l.firstObstacle?.or r.firstObstacle? := by
  rw [firstObstacle?, hparts, List.findSome?_cons, hq]
  exact List.findSome?_append

/-- **What can be folded has no obstacle**, and nothing else is without one. -/
theorem isNone_obstacle (q : Query) : q.firstObstacle?.isNone = q.isFoldable := by
  induction q with
  | and l r ihl ihr | or l r ihl ihr =>
    rw [isFoldable_join rfl rfl, firstObstacle?_join rfl rfl, Option.isNone_or, ihl, ihr]
  | butNot l r =>
    rw [isFoldable_butNot]
    rfl
  | text | flag | attachment | date | fullText => rfl

/-- Without an obstacle a tree is lowered. -/
theorem lower_of_no_obstacle (h : q.firstObstacle? = none) : ∃ raw, q.lower = .ok raw := by
  have hfoldable : q.isFoldable := by
    rw [← isNone_obstacle, h]
    rfl
  obtain ⟨raw, hraw⟩ := lowers_of_isFoldable hfoldable
  exact ⟨raw, hraw.lower_eq⟩

/-- **Lowering reports the first obstacle.** -/
theorem lower_of_obstacle {v : Violation} (h : q.firstObstacle? = some v) :
    q.lower = .error (.violation v) := by
  induction q with
  | and l r ihl ihr | or l r ihl ihr =>
    rw [firstObstacle?_join rfl rfl, Option.or_eq_some_iff] at h
    rcases h with hl | ⟨hl, hr⟩
    · rw [lower, ihl hl]
      rfl
    · -- The left side is lowered before the right one is found to have an obstacle.
      obtain ⟨left, hleft⟩ := lower_of_no_obstacle hl
      rw [lower, hleft, ihr hr]
      rfl
  | text => cases h
  | butNot | flag | attachment | date | fullText =>
    cases h
    rfl

end Query

/-- **The two properties of a tree predict its lowering.** A tree is lowered exactly if it is
textual and has no exclusion, and otherwise lowering it is a violation, which names the first
obstacle in it. It is textual exactly if every leaf is a text leaf, and it has an exclusion exactly
if one of its parts is an exclusion. -/
theorem lower_iff_isTextual (q : Query) :
    ((∃ raw, q.lower = .ok raw) ↔ q.isTextual = true ∧ q.hasExclusion = false) ∧
    (¬ (q.isTextual = true ∧ q.hasExclusion = false) →
      ∃ v, q.firstObstacle? = some v ∧ q.lower = .error (.violation v)) ∧
    (q.isTextual = true ↔ ∀ leaf ∈ q.leaves, ∃ f w, leaf = .text f w) ∧
    (q.hasExclusion = true ↔ ∃ l r, .butNot l r ∈ q.parts) := by
  rw [← Query.isFoldable_iff, ← Query.isNone_obstacle]
  refine ⟨?_, ?_, Query.isTextual_iff, Query.hasExclusion_iff⟩
  · cases h : q.firstObstacle? with
    | none => simp [Query.lower_of_no_obstacle h]
    | some v => simp [Query.lower_of_obstacle h]
  · intro h
    cases hv : q.firstObstacle? with
    | none =>
      rw [hv] at h
      exact absurd rfl h
    | some v => exact ⟨v, rfl, Query.lower_of_obstacle hv⟩

end MailSearch
