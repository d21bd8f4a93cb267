import MailSearch.Proofs.Compilation

/-!
# Condensing folds the largest parts

`condense_largest`: what a tree is condensed to has no text leaf and stays as it is when it is
condensed again, its leaves that ask a column are those of the tree, and its full-text queries are
the lowerings of the largest parts of the tree that hold only text leaves and no exclusion. So no
conjunction or disjunction of two full-text queries is left.

A part is a subtree at its place, and it is known with all the parts that it stands in
(`Query.partsUnder`): it is a largest one of its kind if none of these is of the kind
(`Query.largestTexts`). Every property of the result follows by induction on what condensing does
(`Query.Condenses`).
-/

namespace MailSearch

namespace Query

/-! ## Parts of a tree -/

/-- All parts of a tree. -/
def parts : Query → List Query
  | and l r => and l r :: (l.parts ++ r.parts)
  | or l r => or l r :: (l.parts ++ r.parts)
  | butNot l r => butNot l r :: (l.parts ++ r.parts)
  | q => [q]

/-- All parts of a tree, each behind those that it stands in, from the inside out. A part comes
before the parts in it, and those on the left before those on the right. -/
def partsUnder (above : List Query) : Query → List (List Query × Query)
  | and l r =>
    (above, and l r) :: (l.partsUnder (and l r :: above) ++ r.partsUnder (and l r :: above))
  | or l r =>
    (above, or l r) :: (l.partsUnder (or l r :: above) ++ r.partsUnder (or l r :: above))
  | butNot l r =>
    (above, butNot l r) ::
      (l.partsUnder (butNot l r :: above) ++ r.partsUnder (butNot l r :: above))
  | q => [(above, q)]

/-- The tree is a text leaf. -/
def isText : Query → Bool
  | text .. => true
  | _ => false

/-- The tree is an exclusion. -/
def isExclusion : Query → Bool
  | butNot .. => true
  | _ => false

/-- The tree is a leaf that asks a column. -/
def asksColumn : Query → Bool
  | flag .. | attachment | date .. => true
  | _ => false

/-- The tree is a conjunction or a disjunction of two full-text queries. -/
def joinsFullTexts : Query → Bool
  | and l r | or l r => l.isFullText && r.isFullText
  | _ => false

/-- The tree holds only text leaves and no exclusion. -/
def onlyText (q : Query) : Bool :=
  q.leaves.all isText && !q.parts.any isExclusion

/-- The part holds only text leaves and no exclusion, and stands in no other such part. -/
def isLargest (part : List Query × Query) : Bool :=
  part.2.onlyText && !part.1.any onlyText

/-- The largest parts that hold only text leaves and no exclusion, from left to right. The tree
itself may stand in others. -/
def largestUnder (above : List Query) (q : Query) : List Query :=
  ((q.partsUnder above).filter isLargest).map Prod.snd

/-- The largest such parts of a tree that stands by itself. -/
def largestTexts (q : Query) : List Query :=
  q.largestUnder []

/-- The query of a full-text leaf. -/
def raw? : Query → Option String
  | fullText raw => some raw
  | _ => none

/-- The full-text queries of a tree, from left to right. -/
def fullTexts (q : Query) : List String :=
  q.leaves.filterMap raw?

/-- Nothing in the tree is folded yet. -/
def Unfolded (q : Query) : Prop :=
  ∀ raw, fullText raw ∉ q.leaves

variable {q c l r : Query} {above : List Query}

/-- The trees that the index can answer are those that hold only text leaves and no exclusion. -/
theorem onlyText_eq (q : Query) : q.onlyText = q.isFoldable := by
  induction q with
  | and l r ihl ihr | or l r ihl ihr =>
    rw [isFoldable_join rfl rfl, ← ihl, ← ihr]
    simp only [onlyText, parts, leaves, List.all_append, List.any_cons, List.any_append,
      isExclusion, Bool.false_or, Bool.not_or]
    ac_rfl
  | butNot l r => simp [onlyText, parts, isExclusion, isFoldable_butNot]
  | text | flag | attachment | date | fullText => rfl

/-- A part stands in all that the tree stands in. -/
theorem mem_of_mem_partsUnder {part : List Query × Query} (h : part ∈ q.partsUnder above)
    {outer : Query} (houter : outer ∈ above) : outer ∈ part.1 := by
  induction q generalizing above with
  | and l r ihl ihr | or l r ihl ihr | butNot l r ihl ihr =>
    rw [partsUnder] at h
    rcases List.mem_cons.1 h with rfl | h
    · exact houter
    · rcases List.mem_append.1 h with h | h
      · exact ihl h (.tail _ houter)
      · exact ihr h (.tail _ houter)
  | text | flag | attachment | date | fullText =>
    obtain rfl := List.mem_singleton.1 h
    exact houter

/-- The parts of a tree are the tree and parts that stand in it. -/
theorem partsUnder_eq (above : List Query) (q : Query) :
    ∃ inner, q.partsUnder above = (above, q) :: inner ∧ ∀ part ∈ inner, q ∈ part.1 := by
  cases q with
  | and l r | or l r | butNot l r =>
    refine ⟨_, rfl, fun part hpart => ?_⟩
    rcases List.mem_append.1 hpart with hpart | hpart
    · exact mem_of_mem_partsUnder hpart (.head _)
    · exact mem_of_mem_partsUnder hpart (.head _)
  | text | flag | attachment | date | fullText => exact ⟨[], rfl, nofun⟩

/-- Nothing is folded in a join exactly if nothing is in its sides. -/
theorem unfolded_iff (h : q.leaves = l.leaves ++ r.leaves) :
    q.Unfolded ↔ l.Unfolded ∧ r.Unfolded := by
  simp only [Unfolded, h, List.mem_append, not_or, forall_and]

/-! ## What condensing leaves -/

/-- What has no text leaf cannot be folded. -/
theorem isFoldable_of_isCondensed (h : q.isCondensed) : q.isFoldable = false := by
  induction q with
  | and l r ihl ihr | or l r ihl ihr =>
    rw [isCondensed, Bool.and_eq_true] at h
    rw [isFoldable_join rfl rfl, ihl h.1, Bool.false_and]
  | butNot l r => exact isFoldable_butNot l r
  | text => cases h
  | flag | attachment | date | fullText => rfl

/-- **A condensed tree stays as it is.** -/
theorem condense_of_isCondensed (h : q.isCondensed) : q.condense = .ok q := by
  induction q with
  | and l r ihl ihr | or l r ihl ihr =>
    have hfold := isFoldable_of_isCondensed h
    rw [isCondensed, Bool.and_eq_true] at h
    rw [condense, hfold, ihl h.1, ihr h.2]
    rfl
  | butNot l r ihl ihr =>
    rw [isCondensed, Bool.and_eq_true] at h
    rw [condense, ihl h.1, ihr h.2]
    rfl
  | text => cases h
  | flag | attachment | date | fullText => rfl

namespace Condenses

/-- **Leaves that ask a column are kept**, in their order. What is folded has none. -/
theorem filter_asksColumn (h : Condenses q c) :
    c.leaves.filter asksColumn = q.leaves.filter asksColumn := by
  induction h with
  | @fold q raw hraw =>
    have h := hraw.isFoldable
    rw [← onlyText_eq, onlyText, Bool.and_eq_true, List.all_eq_true] at h
    have hnone : q.leaves.filter asksColumn = [] := by
      rw [List.filter_eq_nil_iff]
      intro leaf hleaf
      have htext := h.1 leaf hleaf
      cases leaf with
      | text => exact Bool.false_ne_true
      | _ => cases htext
    rw [hnone]
    rfl
  | and _ _ _ ihl ihr | or _ _ _ ihl ihr | butNot _ _ ihl ihr =>
    rw [leaves, leaves, List.filter_append, List.filter_append, ihl, ihr]
  | flag | attachment | date | fullText => rfl

/-- Only what is folded becomes a full-text query. -/
theorem isFoldable (h : Condenses q c) (hq : q.Unfolded) (hc : c.isFullText) : q.isFoldable := by
  cases h with
  | fold h => exact h.isFoldable
  | and | or | butNot | flag | attachment | date => cases hc
  | fullText raw => exact absurd (.head _) (hq raw)

/-- The sides of a join that is not folded do not both become full-text queries. -/
theorem not_both {l' r' : Query} (hl : Condenses l l') (hr : Condenses r r') (hql : l.Unfolded)
    (hqr : r.Unfolded) (h : (l.isFoldable && r.isFoldable) = false) :
    (l'.isFullText && r'.isFullText) = false := by
  rw [Bool.eq_false_iff]
  intro hboth
  rw [Bool.and_eq_true] at hboth
  rw [hl.isFoldable hql hboth.1, hr.isFoldable hqr hboth.2] at h
  cases h

/-- **No two full-text queries are left to be joined.** -/
theorem joinsFullTexts (h : Condenses q c) (hq : q.Unfolded) :
    ∀ part ∈ c.parts, part.joinsFullTexts = false := by
  induction h with
  | fold | flag | attachment | date | fullText =>
    intro part hpart
    obtain rfl := List.mem_singleton.1 hpart
    rfl
  | and h hl hr ihl ihr | or h hl hr ihl ihr =>
    obtain ⟨hql, hqr⟩ := (unfolded_iff rfl).1 hq
    rw [isFoldable_join rfl rfl] at h
    simp only [parts, List.forall_mem_cons, List.forall_mem_append]
    exact ⟨hl.not_both hr hql hqr h, ihl hql, ihr hqr⟩
  | butNot _ _ ihl ihr =>
    obtain ⟨hql, hqr⟩ := (unfolded_iff rfl).1 hq
    simp only [parts, List.forall_mem_cons, List.forall_mem_append]
    exact ⟨rfl, ihl hql, ihr hqr⟩

end Condenses

/-! ## The largest parts -/

/-- A tree that can be folded is its own largest part. -/
theorem largestUnder_of_isFoldable (h : q.isFoldable) (habove : above.any onlyText = false) :
    q.largestUnder above = [q] := by
  rw [← onlyText_eq] at h
  obtain ⟨inner, hparts, hinner⟩ := partsUnder_eq above q
  have hhead : isLargest (above, q) := by simp [isLargest, h, habove]
  have hnone : inner.filter isLargest = [] := by
    rw [List.filter_eq_nil_iff]
    intro part hpart
    have hany : part.1.any onlyText := List.any_eq_true.2 ⟨q, hinner part hpart, h⟩
    simp [isLargest, hany]
  rw [largestUnder, hparts, List.filter_cons_of_pos hhead, hnone]
  rfl

/-- A join that cannot be folded has the largest parts of its sides. -/
theorem largestUnder_join (h : q.isFoldable = false)
    (hparts : q.partsUnder above =
      (above, q) :: (l.partsUnder (q :: above) ++ r.partsUnder (q :: above))) :
    q.largestUnder above = l.largestUnder (q :: above) ++ r.largestUnder (q :: above) := by
  have hhead : ¬ isLargest (above, q) := by simp [isLargest, onlyText_eq, h]
  rw [largestUnder, hparts, List.filter_cons_of_neg hhead, List.filter_append, List.map_append]
  rfl

/-- The texts for the index are found part by part. -/
theorem fullTexts_join (h : c.leaves = l.leaves ++ r.leaves) :
    c.fullTexts = l.fullTexts ++ r.fullTexts := by
  rw [fullTexts, h, List.filterMap_append]
  rfl

/-- **The full-text queries are the lowerings of the largest parts.** -/
theorem Condenses.fullTexts_eq (h : Condenses q c) (hq : q.Unfolded)
    (habove : above.any onlyText = false) :
    (q.largestUnder above).map lower = c.fullTexts.map .ok := by
  -- The tree may stand in others, none of which can be folded. That stays so in the sides of a join
  -- that is not folded itself.
  have hunder {outer : Query} (houter : outer.isFoldable = false) {above : List Query}
      (habove : above.any onlyText = false) : (outer :: above).any onlyText = false := by
    rw [List.any_cons, onlyText_eq, houter, habove]
    rfl
  induction h generalizing above with
  | fold hraw =>
    rw [largestUnder_of_isFoldable hraw.isFoldable habove, List.map_singleton, hraw.lower_eq]
    rfl
  | and h _ _ ihl ihr | or h _ _ ihl ihr =>
    obtain ⟨hql, hqr⟩ := (unfolded_iff rfl).1 hq
    rw [largestUnder_join h rfl, fullTexts_join rfl, List.map_append, List.map_append,
      ihl hql (hunder h habove), ihr hqr (hunder h habove)]
  | @butNot l r l' r' _ _ ihl ihr =>
    have h := isFoldable_butNot l r
    obtain ⟨hql, hqr⟩ := (unfolded_iff rfl).1 hq
    rw [largestUnder_join h rfl, fullTexts_join rfl, List.map_append, List.map_append,
      ihl hql (hunder h habove), ihr hqr (hunder h habove)]
  | flag | attachment | date => rfl
  | fullText raw => exact absurd (.head _) (hq raw)

end Query

/-- **Condensing folds the largest parts, and nothing else.** Every tree can be condensed. The
result has no text leaf, it stays as it is when it is condensed again, and its leaves that ask a
column are those of the tree, in their order. If nothing in the tree was folded before, then the
result has no conjunction or disjunction of two full-text queries, and its full-text queries are, in
their order, the lowerings of the largest parts of the tree that hold only text leaves and no
exclusion. -/
theorem condense_largest (q : Query) :
    ∃ c, q.condense = .ok c ∧ (∀ f w, .text f w ∉ c.leaves) ∧ c.condense = .ok c ∧
      c.leaves.filter Query.asksColumn = q.leaves.filter Query.asksColumn ∧
      ((∀ raw, .fullText raw ∉ q.leaves) →
        (∀ part ∈ c.parts, part.joinsFullTexts = false) ∧
        q.largestTexts.map Query.lower = c.fullTexts.map .ok) := by
  obtain ⟨c, hcondense, h⟩ := q.condense_condenses
  have hc := h.isCondensed
  exact ⟨c, hcondense, Query.isCondensed_iff.1 hc, Query.condense_of_isCondensed hc,
    h.filter_asksColumn, fun hq => ⟨h.joinsFullTexts hq, h.fullTexts_eq hq rfl⟩⟩

/-- An exclusion deep in a tree of texts. The two texts beside it are folded together, those that it
stands between apart, and a flag keeps its place. -/
theorem condense_largest_split :
    let word : String → Query := fun w => .text .anywhere (.bare w)
    let q : Query := .and (.or (.and (word "a") (word "b")) (.butNot (word "c") (word "d")))
      (.or (.flag .unread true) (.or (word "e") (word "f")))
    let c : Query := .and (.or (.fullText "((\"a\"*) AND (\"b\"*))")
        (.butNot (.fullText "(\"c\"*)") (.fullText "(\"d\"*)")))
      (.or (.flag .unread true) (.fullText "((\"e\"*) OR (\"f\"*))"))
    (∀ raw, .fullText raw ∉ q.leaves) ∧ q.condense = .ok c ∧ c.condense = .ok c ∧
    (∀ part ∈ c.parts, part.joinsFullTexts = false) ∧
    q.largestTexts.map Query.lower = c.fullTexts.map .ok := by
  intro word q c
  have hq : ∀ raw, .fullText raw ∉ q.leaves := by simp [q, word, Query.leaves]
  obtain ⟨c', hcondense, -, hagain, -, hlargest⟩ := condense_largest q
  obtain rfl : c' = c := Except.ok.inj (hcondense.symm.trans (by decide +kernel))
  exact ⟨hq, hcondense, hagain, hlargest hq⟩

end MailSearch
