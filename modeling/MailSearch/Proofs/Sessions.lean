import MailSearch.Proofs.FaultPositions

/-!
# A cursor in use

There are two calls on a cursor, and they may come in any order: `next` reads a lexeme and moves
on, `peek` only looks. `session_follows_scan`: whatever the order, the answers of `next` are the
lexemes of the text, one after the other, and after the last of them always the same. That is *none*
if the text ends properly, and otherwise the error at its open quote. The cursor keeps to the text:
what it has not read is the end of the text, and its offset is the size of what stands before.

`Scanned` says which lexemes a text has and what comes after them, without a scanner. Two facts
about one call carry the rest. A call moves the cursor along the text (`Cursor.next_reaches`). And
the call of `next` takes one answer off the front of those that are still to come
(`Cursor.next_answer`); at the end there is nothing to take off, since the blanks that the call
skips are skipped by the next one as well (`Cursor.read_skipSpacing`).
-/

namespace MailSearch

/-! ## Sessions -/

namespace Cursor

/-- What can be asked of a cursor. -/
inductive Call where
  | next
  | peek
deriving DecidableEq, Repr

/-- A call that was made: from where, with which answer, and where the cursor was left. -/
structure Step where
  call : Call
  before : Cursor
  answer : Except Error (Option Lexeme)
  after : Cursor
deriving DecidableEq, Repr

/-- The answer to a call, and the place afterwards. -/
def make (c : Cursor) : Call → Except Error (Option Lexeme) × Cursor
  | .next => c.next
  | .peek => (c.peek, c)

/-- Makes the calls one after the other. -/
def session (c : Cursor) : List Call → List Step
  | [] => []
  | call :: calls =>
    ⟨call, c, (c.make call).1, (c.make call).2⟩ :: (c.make call).2.session calls

/-- The answers of `next`, in order. -/
def nextAnswers (steps : List Step) : List (Except Error (Option Lexeme)) :=
  (steps.filter (·.call = .next)).map Step.answer

end Cursor

/-- The answers of `next` to the calls 0, 1 and so on: the lexemes, and then always the last
answer. -/
def answerAt (ls : List Lexeme) (last : Except Error (Option Lexeme)) (k : Nat) :
    Except Error (Option Lexeme) :=
  (ls[k]?).elim last fun l => .ok (some l)

/-- The lexemes of a text and the answer after them. A text that does not end properly has a quote
that no other quote follows; it opens a token, so it does not touch a bareword. -/
inductive Scanned : String → List Lexeme → Except Error (Option Lexeme) → Prop where
  | proper {front blanks : String} {ls : List Lexeme} (h : Laid front ls)
      (hblanks : IsBlanks blanks) : Scanned (front ++ blanks) ls (.ok none)
  | openQuote {front blanks : String} {ls : List Lexeme} {cs : List Char} (h : Laid front ls)
      (hblanks : IsBlanks blanks) (hcs : '"' ∉ cs)
      (hgap : ∀ l ∈ ls.getLast?, l.token.isBareword → blanks ≠ "") :
      Scanned (front ++ blanks ++ String.ofList ('"' :: cs)) ls
        (.error (.lex (front ++ blanks).utf8ByteSize (String.ofList ('"' :: cs))))

/-- What a call does at any place of a text. -/
structure Cursor.Step.Regular (text : String) (s : Step) : Prop where
  /-- `peek` does not move, and answers as `next` would. -/
  peek : s.call = .peek → s.after = s.before ∧ s.answer = s.before.next.1
  /-- What is not read is the end of the text. -/
  suffix : ∃ front, text = front ++ s.after.remaining
  /-- The offset is the size of the text before it. -/
  size : s.after.offset + s.after.remaining.utf8ByteSize = text.utf8ByteSize
  /-- The cursor does not go back. -/
  forward : s.before.offset ≤ s.after.offset
  /-- A lexeme that `next` answers stands right before the cursor. -/
  behind : ∀ l, s.call = .next → s.answer = .ok (some l) →
    s.after.offset = l.position + l.token.display.utf8ByteSize ∧
      ∃ front, text = front ++ l.token.display ++ s.after.remaining
  /-- An error of `next` is an open quote right after the cursor. -/
  fault : ∀ err, s.call = .next → s.answer = .error err →
    err = .lex s.after.offset s.after.remaining

/-! ## Moving along the text -/

namespace Cursor

variable {c d e : Cursor}

/-- The place `d` comes after the place `c`, or is the same. -/
def Reaches (c d : Cursor) : Prop :=
  ∃ passed, c.rest = passed ++ d.rest ∧ d.offset = c.offset + Text.byteLength passed

/-- A cursor reaches itself. -/
theorem Reaches.refl (c : Cursor) : c.Reaches c :=
  ⟨[], rfl, rfl⟩

/-- Reading on from a cursor that is reached. -/
theorem Reaches.trans (h : c.Reaches d) (h' : d.Reaches e) : c.Reaches e := by
  obtain ⟨passed, hrest, hoffset⟩ := h
  obtain ⟨passed', hrest', hoffset'⟩ := h'
  refine ⟨passed ++ passed', ?_, ?_⟩
  · rw [hrest, hrest', List.append_assoc]
  · rw [hoffset', hoffset, Text.byteLength_append, Nat.add_assoc]

/-- Cursors move forward only. -/
theorem Reaches.offset_le (h : c.Reaches d) : c.offset ≤ d.offset := by
  obtain ⟨passed, -, hoffset⟩ := h
  omega

/-- A place that is reached from the beginning of a text divides it. -/
theorem Reaches.divides {text : String} (h : (start text).Reaches c) :
    ∃ front, text = front ++ c.remaining ∧ front.utf8ByteSize = c.offset := by
  obtain ⟨passed, hrest, hoffset⟩ := h
  refine ⟨String.ofList passed, ?_, ?_⟩
  · have htext : text.toList = passed ++ c.rest := hrest
    rw [← String.toList_inj, htext]
    simp [remaining]
  · rw [Text.utf8ByteSize_ofList, hoffset]
    exact (Nat.zero_add _).symm

/-- Skipping spacing is reading on. -/
theorem skipSpacing_reaches (c : Cursor) : c.Reaches c.skipSpacing := by
  obtain ⟨blanks, -, hrest, hoffset⟩ := c.skipSpacing_spec
  exact ⟨blanks, hrest, hoffset⟩

/-- Finding a lexeme is reading on, past it. -/
theorem Finds.reaches {blanks : List Char} {l : Lexeme} (h : c.Finds blanks l d) :
    c.Reaches d := by
  refine ⟨blanks ++ l.token.display.toList, ?_, ?_⟩
  · rw [h.text, List.append_assoc]
  · rw [h.offset, h.position, Text.byteLength_append, Nat.add_assoc]

/-! ## What one call does -/

/-- The three ways in which `next` can end, and the place that it leaves the cursor at. -/
theorem next_cases (c : Cursor) :
    (∃ l after, c.read = .found l after ∧ c.next = (.ok (some l), after)) ∨
    (c.read = .finished c.skipSpacing ∧ c.next = (.ok none, c.skipSpacing)) ∨
    (c.read = .openQuote c.skipSpacing ∧
      c.next = (.error (.lex c.skipSpacing.offset c.skipSpacing.remaining), c.skipSpacing)) := by
  cases hread : c.read with
  | found l after => exact .inl ⟨l, after, rfl, by rw [next, hread]⟩
  | finished here =>
    obtain ⟨rfl, -⟩ := lexeme_finished hread
    exact .inr (.inl ⟨rfl, by rw [next, hread]⟩)
  | openQuote here =>
    obtain ⟨rfl, -⟩ := lexeme_openQuote hread
    exact .inr (.inr ⟨rfl, by rw [next, hread]⟩)

/-- Blanks that are skipped already make no difference. -/
theorem read_skipSpacing (c : Cursor) : c.skipSpacing.read = c.read := by
  have hskip : c.skipSpacing.skipSpacing = c.skipSpacing :=
    skipSpacing_of_head (head_dropWhile c.rest)
  rw [read, hskip, read]

/-- `next` moves along the text. -/
theorem next_reaches (c : Cursor) : c.Reaches c.next.2 := by
  rcases c.next_cases with ⟨l, after, hread, hnext⟩ | ⟨-, hnext⟩ | ⟨-, hnext⟩
  · obtain ⟨blanks, hfinds⟩ := read_finds hread
    rw [hnext]
    exact hfinds.reaches
  · rw [hnext]
    exact c.skipSpacing_reaches
  · rw [hnext]
    exact c.skipSpacing_reaches

/-- A lexeme that `next` answers is found in the text. -/
theorem finds_of_next {l : Lexeme} (h : c.next.1 = .ok (some l)) :
    ∃ blanks, c.Finds blanks l c.next.2 := by
  rcases c.next_cases with ⟨l', after, hread, hnext⟩ | ⟨-, hnext⟩ | ⟨-, hnext⟩
  · rw [hnext] at h ⊢
    cases h
    exact read_finds hread
  · rw [hnext] at h
    cases h
  · rw [hnext] at h
    cases h

/-- An error that `next` answers is a quote that is open where it leaves the cursor. -/
theorem error_of_next {err : Error} (h : c.next.1 = .error err) :
    err = .lex c.next.2.offset c.next.2.remaining := by
  rcases c.next_cases with ⟨l', after, -, hnext⟩ | ⟨-, hnext⟩ | ⟨-, hnext⟩
  · rw [hnext] at h
    cases h
  · rw [hnext] at h
    cases h
  · rw [hnext] at h ⊢
    cases h
    rfl

/-- A call reads on, or stays where it is. -/
theorem make_reaches (c : Cursor) (call : Call) : c.Reaches (c.make call).2 := by
  cases call with
  | next => exact c.next_reaches
  | peek => exact .refl c

/-- **Every call is regular**, wherever in the text it is made. -/
theorem make_regular {text : String} (h : (start text).Reaches c) (call : Call) :
    Step.Regular text ⟨call, c, (c.make call).1, (c.make call).2⟩ := by
  obtain ⟨front, htext, hfront⟩ := (h.trans (c.make_reaches call)).divides
  refine ⟨?_, ⟨front, htext⟩, ?_, (c.make_reaches call).offset_le, ?_, ?_⟩
  · rintro rfl
    exact ⟨rfl, rfl⟩
  · rw [← hfront, ← String.utf8ByteSize_append, ← htext]
  · rintro l rfl hanswer
    obtain ⟨blanks, hfinds⟩ := finds_of_next hanswer
    obtain ⟨before, hbefore, -⟩ := h.divides
    refine ⟨by rw [← Text.byteLength_toList]; exact hfinds.offset,
      before ++ String.ofList blanks, ?_⟩
    rw [hbefore, remaining, hfinds.text, ← String.toList_inj]
    simp [remaining, make]
  · rintro err rfl hanswer
    exact error_of_next hanswer

/-- The answers that `next` still has to give from here on. -/
def answersFrom (c : Cursor) : Nat → Except Error (Option Lexeme) :=
  answerAt c.scan.lexemes (c.scan.ending.check.map fun _ => none)

/-- **A call of `next` takes one answer off the front.** At the end of the lexemes the cursor is
moved behind the blanks, and from there on it answers the same. -/
theorem next_answer (c : Cursor) :
    c.next.1 = c.answersFrom 0 ∧ ∀ k, c.next.2.answersFrom k = c.answersFrom (k + 1) := by
  rcases c.next_cases with ⟨l, after, hread, hnext⟩ | ⟨hread, hnext⟩ | ⟨hread, hnext⟩
  · simp only [hnext, answersFrom, scan_found hread, answerAt]
    exact ⟨rfl, fun k => rfl⟩
  · have hscan : c.skipSpacing.scan = c.scan := scan_congr c.read_skipSpacing
    simp only [hnext, answersFrom, hscan, scan_finished hread, answerAt]
    exact ⟨rfl, fun k => rfl⟩
  · have hscan : c.skipSpacing.scan = c.scan := scan_congr c.read_skipSpacing
    simp only [hnext, answersFrom, hscan, scan_openQuote hread, answerAt]
    exact ⟨rfl, fun k => rfl⟩

/-! ## What a session does -/

/-- Every call of a session is made at a cursor that the first one reaches. -/
theorem session_reaches {calls : List Call} {s : Step} (h : s ∈ c.session calls) :
    c.Reaches s.before := by
  induction calls generalizing c with
  | nil => cases h
  | cons call calls ih =>
    rcases List.mem_cons.1 h with rfl | hlater
    · exact .refl c
    · exact (c.make_reaches call).trans (ih hlater)

/-- **Every call of a session is regular.** -/
theorem session_regular {text : String} {calls : List Call} {s : Step}
    (hc : (start text).Reaches c) (h : s ∈ c.session calls) : s.Regular text := by
  induction calls generalizing c with
  | nil => cases h
  | cons call calls ih =>
    rcases List.mem_cons.1 h with rfl | hlater
    · exact make_regular hc call
    · exact ih (hc.trans (c.make_reaches call)) hlater

/-- Later calls are made at later places. -/
theorem session_forward (c : Cursor) (calls : List Call) :
    (c.session calls).Pairwise fun s s' => s.after.offset ≤ s'.before.offset := by
  induction calls generalizing c with
  | nil => exact .nil
  | cons call calls ih =>
    exact .cons (fun s hs => (session_reaches hs).offset_le) (ih _)

/-- **The answers of `next` in a session are those that it has to give**, one after the other. -/
theorem session_answers (c : Cursor) (calls : List Call) :
    nextAnswers (c.session calls) = (List.range (calls.count .next)).map c.answersFrom := by
  induction calls generalizing c with
  | nil => rfl
  | cons call calls ih =>
    cases call with
    | peek =>
      rw [List.count_cons_of_ne (by decide)]
      exact ih c
    | next =>
      obtain ⟨hfirst, hlater⟩ := c.next_answer
      rw [List.count_cons_self, List.range_succ_eq_map, List.map_cons, List.map_map]
      have hrest := ih c.next.2
      simp only [funext hlater] at hrest
      show c.next.1 :: nextAnswers (c.next.2.session calls) = _
      rw [hrest, hfirst]
      rfl

end Cursor

/-! ## Whole texts -/

/-- The scanner finds the lexemes of a text, and ends as it has to. -/
theorem scanned_start (text : String) :
    Scanned text (Cursor.start text).scan.lexemes
      ((Cursor.start text).scan.ending.check.map fun _ => none) := by
  obtain ⟨front, blanks, left, htext, hlaid, hblanks, hends, hleaves⟩ :=
    Laid.leaves_of_scan (c := .start text) .nil rfl nofun
  have htext : text = front ++ blanks ++ String.ofList left := by
    rw [← String.toList_inj, String.toList_append, String.toList_ofList, ← htext]
    rfl
  rw [List.nil_append] at hlaid hends
  generalize (Cursor.start text).scan.lexemes = ls at *
  generalize (Cursor.start text).scan.ending = e at *
  cases hleaves with
  | proper =>
    rw [htext, String.ofList_nil, String.append_empty]
    exact .proper hlaid hblanks
  | openQuote _ hcs =>
    rw [htext]
    refine .openQuote hlaid hblanks hcs fun l hl hword hnil => ?_
    have hboundary := Token.ends_iff.1 (hends l hl) hword
    rw [hnil] at hboundary
    cases hboundary '"' rfl

/-- The tokens of a text are what is scanned from its start, if the text may end where it does. -/
theorem tokenize_eq_map (text : String) :
    tokenize text = ((Cursor.start text).scan.ending.check.map fun _ => (none : Option Lexeme)).map
      fun _ => (Cursor.start text).scan.lexemes := by
  rw [tokenize]
  cases (Cursor.start text).scan.ending <;> rfl

/-- **A cursor follows the scan of its text in every session.** Whatever calls are made, the answers
of `next` are the lexemes of the text in order, as far as the tokenizer gets, and then always the
same: none, or the error that the tokenizer reports. Every call is regular, and the offset does not
go down from one call to a later one. -/
theorem session_follows_scan (text : String) (calls : List Cursor.Call) :
    ∃ ls last, Scanned text ls last ∧ tokenize text = last.map (fun _ => ls) ∧
      Cursor.nextAnswers ((Cursor.start text).session calls) =
        (List.range (calls.count .next)).map (answerAt ls last) ∧
      (∀ s ∈ (Cursor.start text).session calls, s.Regular text) ∧
      ((Cursor.start text).session calls).Pairwise fun s s' =>
        s.after.offset ≤ s'.before.offset :=
  ⟨_, _, scanned_start text, tokenize_eq_map text, Cursor.session_answers _ calls,
    fun _ hs => Cursor.session_regular (.refl _) hs, Cursor.session_forward _ calls⟩

-- The second call of `next` stops at the open quote, and so do all after it.
example : Cursor.nextAnswers ((Cursor.start "a  \"b").session [.peek, .next, .next, .peek, .next]) =
    [.ok (some ⟨0, .bare "a"⟩), .error (.lex 3 "\"b"), .error (.lex 3 "\"b")] := rfl

end MailSearch
