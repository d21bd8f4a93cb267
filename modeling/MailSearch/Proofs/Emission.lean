import MailSearch.Sql.Generator

/-!
# What the generator emits

The generator carries the polarity of the part it is at. `Generator.emit` is the same walk with the
polarity handed down instead, and `Generator.visit_run` says that the two agree: a visit ends with
the polarity it began with, whether it succeeds or fails, and what it emits depends only on the tree
and that polarity. `Generator.emit_isCondensed`: a tree without text leaves always has a predicate.
-/

namespace MailSearch

/-- No leaf is a text leaf. -/
def Query.isCondensed : Query → Bool
  | and l r | or l r | butNot l r => l.isCondensed && r.isCondensed
  | text .. => false
  | flag .. | attachment | date .. | fullText .. => true

namespace Polarity

/-- Two exclusions cancel. -/
@[simp]
theorem flip_flip (s : Polarity) : s.flip.flip = s := by
  cases s <;> rfl

end Polarity

namespace Emission

variable {α β : Type} {s : Polarity}

/-- Work after work that keeps the polarity. -/
theorem run_bind {x : Emission α} {f : α → Emission β} {r : Except Error α}
    {k : α → Except Error β} (hx : x.run.run s = (r, s)) (hf : ∀ a, (f a).run.run s = (k a, s)) :
    (x >>= f).run.run s = (r >>= k, s) := by
  show (match x.run.run s with | (r, s) => ExceptT.bindCont f r s) = _
  rw [hx]
  cases r with
  | error => rfl
  | ok a => exact hf a

/-- Work on the excluded side is done at the other polarity. -/
theorem run_excluding {x : Emission α} {r : Except Error α} (h : x.run.run s.flip = (r, s.flip)) :
    (excluding x).run.run s = (r, s) := by
  have hx : x s.flip = (r, s.flip) := h
  -- Only the run from the flipped polarity is looked at, so the rest of `x` may be anything.
  have hconst : (excluding x).run.run s = (excluding fun _ => x s.flip).run.run s := rfl
  rw [hconst, hx]
  cases r <;> cases s <;> rfl

end Emission

namespace Generator

/-- The predicate of a tree at a polarity. -/
def emit (g : Generator) (s : Polarity) : Query → Except Error Predicate
  | .and l r => do return .and (← g.emit s l) (← g.emit s r)
  | .or l r => do return .or (← g.emit s l) (← g.emit s r)
  | .butNot l r => do return .butNot (← g.emit s l) (← g.emit s.flip r)
  | .text f w => .error (.violation (.notCondensed (.text f w)))
  | .flag f status => .ok (.equals (g.flagColumn f) status)
  | .attachment => .ok (.unlike (g.column g.entity.dataColumn) noAttachmentsPattern)
  | .date phrase direction =>
    match g.resolver phrase.text g.now with
    | some moment => .ok (.compare (g.column g.entity.timestampColumn) direction moment.seconds)
    | none => .ok s.permissive
  | .fullText raw => .ok (.found (g.column g.entity.idColumn) g.entity.searchTable raw)

/-- **The polarity never leaks.** A visit emits what belongs to the tree at the polarity it began
with, and ends with that polarity. -/
theorem visit_run (g : Generator) (q : Query) (s : Polarity) :
    (g.visit q).run.run s = (g.emit s q, s) := by
  induction q generalizing s with
  | and l r ihl ihr | or l r ihl ihr =>
    exact Emission.run_bind (ihl s) fun _ => Emission.run_bind (ihr s) fun _ => rfl
  | butNot l r ihl ihr =>
    exact Emission.run_bind (ihl s) fun _ =>
      Emission.run_bind (Emission.run_excluding (ihr s.flip)) fun _ => rfl
  | text | flag | attachment | fullText => rfl
  | date phrase direction =>
    rw [visit, emit]
    cases g.resolver phrase.text g.now <;> rfl

/-- What is generated is the predicate of the tree, written out. -/
theorem generate_eq (g : Generator) (q : Query) :
    (g.generate q).1 = (g.emit .kept q).map (Predicate.render g.dialect) := by
  rw [generate, visit_run]

/-- The predicate of a join is that join of the predicates of its sides. -/
theorem join_eq_ok {join : Predicate → Predicate → Predicate} {x y : Except Error Predicate}
    {p : Predicate} :
    (do return join (← x) (← y)) = Except.ok p ↔
      ∃ l r, x = .ok l ∧ y = .ok r ∧ p = join l r := by
  constructor
  · intro h
    cases x with
    | error => cases h
    | ok l =>
      cases y with
      | error => cases h
      | ok r =>
        cases h
        exact ⟨l, r, rfl, rfl, rfl⟩
  · rintro ⟨l, r, rfl, rfl, rfl⟩
    rfl

/-- What commutes with a join commutes with emitting it. -/
theorem join_map (join : Predicate → Predicate → Predicate) {f : Predicate → Predicate}
    (hf : ∀ l r, f (join l r) = join (f l) (f r)) (x y : Except Error Predicate) :
    (do return join (← x.map f) (← y.map f)) =
      Except.map f (do return join (← x) (← y)) := by
  cases x with
  | error => rfl
  | ok l =>
    cases y with
    | error => rfl
    | ok r => exact congrArg Except.ok (hf l r).symm

/-- A date is compared with the instant it names, and otherwise hides no message. -/
theorem emit_date {g : Generator} {s : Polarity} {phrase : Token} {direction : Direction}
    {p : Predicate} (h : g.emit s (.date phrase direction) = .ok p) :
    (∃ bound, p = .compare (g.column g.entity.timestampColumn) direction bound) ∨
      p = s.permissive := by
  rw [emit] at h
  split at h
  next moment _ => exact .inl ⟨moment.seconds, (Except.ok.inj h).symm⟩
  next => exact .inr (Except.ok.inj h).symm

/-- A tree without text leaves has a predicate. -/
theorem emit_isCondensed {g : Generator} {q : Query} (h : q.isCondensed) (s : Polarity) :
    ∃ p, g.emit s q = .ok p := by
  induction q generalizing s with
  | and l r ihl ihr | or l r ihl ihr =>
    rw [Query.isCondensed, Bool.and_eq_true] at h
    obtain ⟨p, hp⟩ := ihl h.1 s
    obtain ⟨p', hp'⟩ := ihr h.2 s
    exact ⟨_, join_eq_ok.2 ⟨p, p', hp, hp', rfl⟩⟩
  | butNot l r ihl ihr =>
    rw [Query.isCondensed, Bool.and_eq_true] at h
    obtain ⟨p, hp⟩ := ihl h.1 s
    obtain ⟨p', hp'⟩ := ihr h.2 s.flip
    exact ⟨_, join_eq_ok.2 ⟨p, p', hp, hp', rfl⟩⟩
  | text => cases h
  | flag | attachment | fullText => exact ⟨_, rfl⟩
  | date phrase direction =>
    rw [emit]
    cases g.resolver phrase.text g.now with
    | none => exact ⟨_, rfl⟩
    | some moment => exact ⟨_, rfl⟩

end Generator

end MailSearch
