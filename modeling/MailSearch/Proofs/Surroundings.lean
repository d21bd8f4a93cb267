import MailSearch.Proofs.Emission

/-!
# A part of a tree and what surrounds it

The generator writes a tree with one polarity that it flips and flips back on its way.
`polarity_never_leaks`: a visit ends with the polarity it began with, also where it fails, so one
generator can write tree after tree; and a part of a tree is written as if it stood alone, at the
polarity that the exclusions around it make.

What surrounds a part is a list of joins, each with one side left out (`Query.Frame`), from the
inside out. One frame is written around whatever its open side gives, in two texts that do not
depend on it (`Generator.written_fill`); `Generator.written_within` goes through all frames by
induction and counts the exclusions on the way.
-/

namespace MailSearch

/-! ## Frames -/

namespace Query

/-- A join with one side left out. -/
inductive Frame where
  | andLeft (right : Query)
  | andRight (left : Query)
  | orLeft (right : Query)
  | orRight (left : Query)
  /-- The side that is kept is left out. -/
  | kept (excluded : Query)
  /-- The side that is excluded is left out. -/
  | excluded (kept : Query)
deriving DecidableEq, Repr

namespace Frame

/-- The join with the side put in. -/
def fill : Frame → Query → Query
  | andLeft r, q => .and q r
  | andRight l, q => .and l q
  | orLeft r, q => .or q r
  | orRight l, q => .or l q
  | kept r, q => .butNot q r
  | excluded l, q => .butNot l q

/-- The side that is left out is excluded. -/
def isExcluded : Frame → Bool
  | excluded _ => true
  | andLeft _ | andRight _ | orLeft _ | orRight _ | kept _ => false

end Frame

/-- The tree in which `q` stands within these frames, the innermost one first. -/
def within (q : Query) : List Frame → Query
  | [] => q
  | frame :: outer => (frame.fill q).within outer

/-- How many exclusions have the part on their excluded side. -/
def exclusions (frames : List Frame) : Nat :=
  frames.countP Frame.isExcluded

end Query

/-- The polarity under a number of exclusions: only their parity counts. -/
def Polarity.under (s : Polarity) (n : Nat) : Polarity :=
  if n % 2 = 0 then s else s.flip

/-- One more exclusion around a part turns its polarity once more. -/
theorem Polarity.under_succ (s : Polarity) (n : Nat) : s.under (n + 1) = (s.under n).flip := by
  unfold under
  rcases Nat.mod_two_eq_zero_or_one n with h | h
  · have hsucc : (n + 1) % 2 = 1 := by omega
    simp [h, hsucc]
  · have hsucc : (n + 1) % 2 = 0 := by omega
    simp [h, hsucc]

/-! ## Texts around a text -/

/-- The outcome of a whole as a function of the outcome of a part: the whole has the text of the
part between two others, and fails if the part does. It may also fail where the part does not. -/
structure Encloses (wrap : Except Error String → Except Error String) (before after : String) :
    Prop where
  text : ∀ part whole, wrap (.ok part) = .ok whole → whole = before ++ part ++ after
  failure : ∀ err, ∃ err', wrap (.error err) = .error err'

namespace Encloses

variable {wrap wrap' : Except Error String → Except Error String}
  {before after before' after' : String}

/-- The part by itself. -/
theorem id : Encloses id "" "" :=
  ⟨fun part whole h => by cases h; simp, fun err => ⟨err, rfl⟩⟩

/-- One whole as a part of another. -/
theorem comp (h : Encloses wrap before after) (h' : Encloses wrap' before' after') :
    Encloses (wrap' ∘ wrap) (before' ++ before) (after ++ after') := by
  refine ⟨fun part whole hwhole => ?_, fun err => ?_⟩
  · have hwhole : wrap' (wrap (.ok part)) = .ok whole := hwhole
    cases hmiddle : wrap (.ok part) with
    | error err =>
      obtain ⟨err', herr⟩ := h'.failure err
      rw [hmiddle, herr] at hwhole
      cases hwhole
    | ok middle =>
      rw [hmiddle] at hwhole
      rw [h'.text middle whole hwhole, h.text part middle hmiddle]
      simp only [String.append_assoc]
  · obtain ⟨middle, hmiddle⟩ := h.failure err
    obtain ⟨err', herr⟩ := h'.failure middle
    exact ⟨err', by rw [Function.comp_apply, hmiddle, herr]⟩

end Encloses

namespace Generator

/-! ## One generator for many trees -/

/-- The SQL of a part of a tree, visited at a polarity. -/
def written (g : Generator) (s : Polarity) (q : Query) : Except Error String :=
  ((g.visit q).run.run s).1.map (Predicate.render g.dialect)

/-- A part is written as the predicate that is emitted for it at that polarity. -/
theorem written_eq (g : Generator) (s : Polarity) (q : Query) :
    g.written s q = (g.emit s q).map (Predicate.render g.dialect) := by
  rw [written, visit_run]

/-- What is emitted does not depend on the polarity that the generator was left with. -/
theorem emit_polarity (g : Generator) (left s : Polarity) (q : Query) :
    ({ g with polarity := left } : Generator).emit s q = g.emit s q := by
  induction q generalizing s with
  | and l r ihl ihr | or l r ihl ihr | butNot l r ihl ihr => simp only [emit, ihl, ihr]
  | text | flag | attachment | date | fullText => rfl

/-- A tree is written in the same way whatever was written before it, and leaves the generator as
new. -/
theorem generate_polarity (g : Generator) (left : Polarity) (q : Query) :
    ({ g with polarity := left } : Generator).generate q =
      (g.written .kept q, { g with polarity := .kept }) := by
  rw [generate, visit_run, emit_polarity, written_eq]

/-- A generator that is used again starts afresh, whatever polarity it was left with. -/
theorem generateAll_polarity (g : Generator) (left : Polarity) (qs : List Query) :
    ({ g with polarity := left } : Generator).generateAll qs = qs.map (g.written .kept) := by
  induction qs generalizing left with
  | nil => rfl
  | cons q qs ih =>
    rw [generateAll, generate_polarity]
    simp only [ih, List.map_cons]

/-- Trees that are visited one after the other, with the polarity handed on, do not disturb each
other. -/
theorem visitAll_run (g : Generator) (qs : List Query) (s : Polarity) :
    (qs.mapM fun q => (g.visit q).run).run s =
      (qs.map fun q => ((g.visit q).run.run s).1, s) := by
  induction qs with
  | nil => rfl
  | cons q qs ih =>
    have hq : (g.visit q).run.run s = (((g.visit q).run.run s).1, s) := by rw [visit_run]
    rw [List.mapM_cons, StateT.run_bind, hq]
    show (do
      let later ← (qs.mapM fun q => (g.visit q).run)
      pure (((g.visit q).run.run s).1 :: later)).run s = _
    rw [StateT.run_bind, ih]
    rfl

/-! ## Parts of a tree -/

section
variable {d : Dialect} {join : Predicate → Predicate → Predicate} {word : String}

/-- The left side of a join has the right one and a word after it. -/
theorem encloses_left
    (hjoin : ∀ l r, (join l r).render d = "(" ++ l.render d ++ word ++ r.render d ++ ")")
    (x : Query → Except Error Predicate) (y : Except Error Predicate) :
    ∃ wrap before after, Encloses wrap before after ∧ ∀ q,
      Except.map (Predicate.render d) (do return join (← x q) (← y)) =
        wrap ((x q).map (Predicate.render d)) := by
  cases y with
  | error err =>
    -- The part is written in vain: its own failure comes first, and then that of the other side.
    refine ⟨fun part => part >>= fun _ => .error err, "", "",
      ⟨fun part whole h => (nomatch h), fun err' => ⟨err', rfl⟩⟩, fun q => ?_⟩
    cases x q <;> rfl
  | ok r =>
    refine ⟨Except.map ("(" ++ · ++ (word ++ r.render d ++ ")")), "(", word ++ r.render d ++ ")",
      ⟨fun part whole h => (Except.ok.inj h).symm, fun err' => ⟨err', rfl⟩⟩, fun q => ?_⟩
    cases x q with
    | error => rfl
    | ok l =>
      refine congrArg Except.ok ((hjoin l r).trans ?_)
      simp only [String.append_assoc]

/-- The right side of a join has the left one and a word before it. -/
theorem encloses_right
    (hjoin : ∀ l r, (join l r).render d = "(" ++ l.render d ++ word ++ r.render d ++ ")")
    (x : Except Error Predicate) (y : Query → Except Error Predicate) :
    ∃ wrap before after, Encloses wrap before after ∧ ∀ q,
      Except.map (Predicate.render d) (do return join (← x) (← y q)) =
        wrap ((y q).map (Predicate.render d)) := by
  cases x with
  | error err =>
    -- The left side comes first, so the part is not looked at.
    exact ⟨fun _ => .error err, "", "", ⟨fun part whole h => (nomatch h), fun _ => ⟨err, rfl⟩⟩,
      fun q => rfl⟩
  | ok l =>
    refine ⟨Except.map ("(" ++ l.render d ++ word ++ · ++ ")"), "(" ++ l.render d ++ word, ")",
      ⟨fun part whole h => (Except.ok.inj h).symm, fun err' => ⟨err', rfl⟩⟩, fun q => ?_⟩
    cases y q with
    | error => rfl
    | ok r => exact congrArg Except.ok (hjoin l r)

end

/-- **A frame is written around what stands in it.** The part is visited at the polarity of the
frame, or at the other one on the excluded side. -/
theorem written_fill (g : Generator) (s : Polarity) (frame : Query.Frame) :
    ∃ wrap before after, Encloses wrap before after ∧ ∀ q, g.written s (frame.fill q) =
      wrap (g.written (if frame.isExcluded then s.flip else s) q) := by
  simp only [written_eq]
  cases frame with
  | andLeft r | orLeft r => exact encloses_left (fun _ _ => rfl) (g.emit s) (g.emit s r)
  | andRight l | orRight l => exact encloses_right (fun _ _ => rfl) (g.emit s l) (g.emit s)
  | kept r => exact encloses_left (fun _ _ => rfl) (g.emit s) (g.emit s.flip r)
  | excluded l => exact encloses_right (fun _ _ => rfl) (g.emit s l) (g.emit s.flip)

/-- **A part is written as if it stood alone**, at the polarity that the exclusions around it make,
and what is written around it does not depend on it. -/
theorem written_within (g : Generator) (s : Polarity) (frames : List Query.Frame) :
    ∃ wrap before after, Encloses wrap before after ∧ ∀ q, g.written s (q.within frames) =
      wrap (g.written (s.under (Query.exclusions frames)) q) := by
  induction frames with
  | nil => exact ⟨id, "", "", .id, fun q => rfl⟩
  | cons frame outer ih =>
    obtain ⟨wrap, before, after, hwrap, houter⟩ := ih
    obtain ⟨wrap', before', after', hwrap', hframe⟩ :=
      g.written_fill (s.under (Query.exclusions outer)) frame
    refine ⟨wrap ∘ wrap', before ++ before', after' ++ after, hwrap'.comp hwrap, fun q => ?_⟩
    have hunder : s.under (Query.exclusions (frame :: outer)) =
        if frame.isExcluded then (s.under (Query.exclusions outer)).flip
        else s.under (Query.exclusions outer) := by
      rw [Query.exclusions, List.countP_cons]
      split
      · exact Polarity.under_succ _ _
      · rfl
    rw [Query.within, houter, hframe, hunder]
    rfl

end Generator

/-- **The polarity of a generator never leaks.** A visit ends with the polarity it began with,
whether it succeeds or fails. So trees that are visited in turn, with or without a new start between
them, are written as a new generator would write each. And a part of a tree is written as it is
written alone at the polarity of the exclusions that it is on the excluded side of: what it stands
in adds a text before it and one after it, which are the same for every part in that place. -/
theorem polarity_never_leaks (g : Generator) :
    (∀ (q : Query) (s : Polarity), ((g.visit q).run.run s).2 = s) ∧
    (∀ (qs : List Query) (s : Polarity), (qs.mapM fun q => (g.visit q).run).run s =
      (qs.map fun q => ((g.visit q).run.run s).1, s)) ∧
    (∀ qs : List Query, g.generateAll qs =
      qs.map fun q => (({ g with polarity := .kept } : Generator).generate q).1) ∧
    ∀ (frames : List Query.Frame) (s : Polarity), ∃ wrap before after,
      Encloses wrap before after ∧ ∀ q, g.written s (q.within frames) =
        wrap (g.written (s.under (Query.exclusions frames)) q) := by
  refine ⟨fun q s => ?_, g.visitAll_run, fun qs => ?_, fun frames s => g.written_within s frames⟩
  · rw [Generator.visit_run]
  · rw [g.generateAll_polarity g.polarity qs]
    simp only [Generator.generate_polarity]

end MailSearch
