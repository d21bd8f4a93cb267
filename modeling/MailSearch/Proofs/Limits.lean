import Mathlib.Control.Monad.Basic
import MailSearch.Proofs.Display
import MailSearch.Proofs.Layout
import MailSearch.Proofs.UnknownValues

/-!
# The two limits of the parser

The parser counts the parentheses that are open and the terms that it has read, and gives up where
one of the two counts goes over its limit. `parse_iff_within_limits`: this is all that the limits
do. A text is parsed to a tree under some limits exactly if it is under limits that no text of its
size goes over, its parentheses nest no deeper than the one limit says, and the tree has no more
leaves than the other.

`Scan.parse_eq_ok` says what is parsed with the limits apart from the rest: the tokens are derived,
which does not depend on the limits, and two numbers are small enough. Neither number is larger than
that of the tokens (`Grammar.mostOpen_le`, `Grammar.Derives.leafCount_le`), and a text has no more
tokens than bytes (`Cursor.length_scan_le`).
-/

namespace MailSearch

open Grammar

/-! ## What is parsed, with the limits apart -/

/-- `Scan.parse_iff_within` for the terms that the options allow. -/
theorem Scan.parse_eq_ok {s : Scan} {o : ParseOptions} {q : Query} :
    s.parse o = .ok q ↔
      (s.ending.check = .ok () ∧
        Derives (TermUnder o.unknownValue) False .query (s.lexemes.map Lexeme.token) q) ∧
      mostOpen 0 (s.lexemes.map Lexeme.token) ≤ o.maxDepth ∧ q.leafCount ≤ o.maxTerms :=
  Scan.parse_iff_within (readsTerms o)

/-! ## Neither number is larger than the text -/

namespace Grammar

/-- Each token opens one parenthesis at most. -/
theorem mostOpen_le (opened : Nat) (ts : List Token) : mostOpen opened ts ≤ opened + ts.length := by
  induction ts generalizing opened with
  | nil => exact Nat.le_refl _
  | cons t ts ih =>
    have hopen := ih (opened + 1)
    have hclose := ih (opened - 1)
    have hother := ih opened
    rw [mostOpen, List.length_cons]
    split
    · omega
    · split <;> omega

/-- Each leaf has a token of its own. -/
theorem Derives.leafCount_le {term : List Token → Query → Prop} (hterm : TermShape term)
    {several : Prop} {rule : Rule} {ts : List Token} {q : Query}
    (h : Derives term several rule ts q) : q.leafCount ≤ ts.length := by
  induction h with
  | one _ ih | operand _ ih | alternative _ ih => exact ih
  | more _ _ _ ihq ihr | and _ _ _ ihq ihr | butNot _ _ _ _ ihq ihr | or _ _ _ ihq ihr =>
    simp only [Query.leafCount, List.length_append, List.length_cons]
    omega
  | group _ _ _ ih =>
    simp only [List.length_append, List.length_cons]
    omega
  | term h =>
    obtain ⟨t, us, rfl, -⟩ := hterm.head h
    rw [hterm.leaf h, List.length_cons]
    omega

end Grammar

/-- Each lexeme takes a character at least. -/
theorem Cursor.length_scan_le (c : Cursor) : c.scan.lexemes.length ≤ c.rest.length := by
  induction c using Cursor.scan.induct with
  | case1 c l after hread ih =>
    have hlt := Cursor.read_length_lt hread
    rw [Cursor.scan_found hread, List.length_cons]
    omega
  | case2 c here hread =>
    rw [Cursor.scan_finished hread]
    exact Nat.zero_le _
  | case3 c here hread =>
    rw [Cursor.scan_openQuote hread]
    exact Nat.zero_le _

/-- Each character takes a byte at least. -/
theorem Text.length_le_byteLength (cs : List Char) : cs.length ≤ byteLength cs := by
  induction cs with
  | nil => exact Nat.zero_le _
  | cons c cs ih =>
    have hpos := c.utf8Size_pos
    rw [byteLength_cons, List.length_cons]
    omega

/-- The tokens of a text, as far as it can be scanned. -/
def Grammar.tokensOf (text : String) : List Token :=
  (Cursor.start text).scan.lexemes.map Lexeme.token

/-- Every token of a text can be written. -/
theorem Grammar.tokensOf_written (text : String) : ∀ t ∈ tokensOf text, t.Written := by
  intro t hmem
  obtain ⟨l, hl, rfl⟩ := List.mem_map.1 hmem
  exact Cursor.scan_written _ l hl

/-- Every token takes a byte of the text at least. -/
theorem Grammar.length_tokensOf_le (text : String) :
    (tokensOf text).length ≤ text.utf8ByteSize := by
  calc (tokensOf text).length
      = (Cursor.start text).scan.lexemes.length := List.length_map _
    _ ≤ text.toList.length := Cursor.length_scan_le _
    _ ≤ Text.byteLength text.toList := Text.length_le_byteLength _
    _ = text.utf8ByteSize := Text.byteLength_toList _

/-- A tree has a leaf more than the joins on any way down. -/
theorem Query.height_lt_leafCount (q : Query) : q.height < q.leafCount := by
  induction q with
  | and l r ihl ihr | or l r ihl ihr | butNot l r ihl ihr =>
    rw [height, leafCount]
    omega
  | text | flag | attachment | date | fullText => exact Nat.one_pos

/-! ## The limits are exact -/

/-- **The limits are exact, and change nothing else.** A text is parsed to a tree exactly if it is
under limits as large as its size, its parentheses nest no deeper than `maxDepth`, and the tree has
at most `maxTerms` leaves. What goes over a limit is refused for a limit that it goes over. Higher
limits leave a parsed tree as it is, and the tree is lower than `maxTerms`. -/
theorem parse_iff_within_limits (text : String) (o : ParseOptions) (q : Query) {limit : Nat}
    (hlimit : text.utf8ByteSize ≤ limit) :
    (Query.parse text o = .ok q ↔
      Query.parse text { o with maxDepth := limit, maxTerms := limit } = .ok q ∧
        q.leafCount ≤ o.maxTerms ∧ mostOpen 0 (tokensOf text) ≤ o.maxDepth) ∧
    (Query.parse text { o with maxDepth := limit, maxTerms := limit } = .ok q →
      Delivers o (mostOpen 0 (tokensOf text)) q.leafCount q (Query.parse text o)) ∧
    (Query.parse text o = .ok q →
      (∀ depth terms, o.maxDepth ≤ depth → o.maxTerms ≤ terms →
        Query.parse text { o with maxDepth := depth, maxTerms := terms } = .ok q) ∧
      q.height < o.maxTerms) := by
  have hsize := Nat.le_trans (length_tokensOf_le text) hlimit
  refine ⟨⟨?_, ?_⟩, ?_, ?_⟩
  · intro h
    obtain ⟨⟨hcheck, hder⟩, hdepth, hterms⟩ := Scan.parse_eq_ok.1 h
    have hopen : mostOpen 0 (tokensOf text) ≤ (tokensOf text).length := by
      simpa using mostOpen_le 0 (tokensOf text)
    have hleaves : q.leafCount ≤ (tokensOf text).length := hder.leafCount_le (TermUnder.shape _)
    exact ⟨Scan.parse_eq_ok.2
      ⟨⟨hcheck, hder⟩, Nat.le_trans hopen hsize, Nat.le_trans hleaves hsize⟩, hterms, hdepth⟩
  · rintro ⟨h, hterms, hdepth⟩
    exact Scan.parse_eq_ok.2 ⟨(Scan.parse_eq_ok.1 h).1, hdepth, hterms⟩
  · intro h
    obtain ⟨⟨hcheck, hder⟩, -⟩ := Scan.parse_eq_ok.1 h
    exact Scan.parse_delivers (readsTerms o) hcheck hder
  · intro h
    obtain ⟨hderived, hdepth, hterms⟩ := Scan.parse_eq_ok.1 h
    refine ⟨fun depth terms hd hn => ?_, Nat.lt_of_lt_of_le q.height_lt_leafCount hterms⟩
    exact Scan.parse_eq_ok.2 ⟨hderived, Nat.le_trans hdepth hd, Nat.le_trans hterms hn⟩

/-- Groups side by side do not add up, and a parenthesis between quotes opens none: two may be open,
and there are four terms. One less of either is refused. -/
theorem parse_iff_within_limits_siblings :
    let text := "(a (b)) OR \"((\" ((c))"
    let q := Query.and (.or (.and (.text .anywhere (.bare "a")) (.text .anywhere (.bare "b")))
      (.text .anywhere (.quote "(("))) (.text .anywhere (.bare "c"))
    text.utf8ByteSize ≤ 21 ∧ Query.parse text { maxDepth := 21, maxTerms := 21 } = .ok q ∧
    Query.parse text { maxDepth := 2, maxTerms := 4 } = .ok q ∧
    Query.parse text { maxDepth := 1, maxTerms := 4 } ≠ .ok q ∧
    Query.parse text { maxDepth := 2, maxTerms := 3 } ≠ .ok q ∧ q.height < 4 := by
  intro text q
  have hsize : text.utf8ByteSize ≤ 21 := by decide
  have hwide : Query.parse text { maxDepth := 21, maxTerms := 21 } = .ok q := by decide +kernel
  have hopen : mostOpen 0 (tokensOf text) = 2 := by decide +kernel
  have hexact := parse_iff_within_limits text { maxDepth := 2, maxTerms := 4 } q hsize
  have hparse := hexact.1.2 ⟨hwide, Nat.le_refl 4, Nat.le_of_eq hopen⟩
  refine ⟨hsize, hwide, hparse, ?_, ?_, (hexact.2.2 hparse).2⟩
  · intro h
    have hdepth : mostOpen 0 (tokensOf text) ≤ 1 :=
      ((parse_iff_within_limits text _ q hsize).1.1 h).2.2
    rw [hopen] at hdepth
    exact absurd hdepth (by decide)
  · intro h
    have hterms : 4 ≤ 3 := ((parse_iff_within_limits text _ q hsize).1.1 h).2.1
    exact absurd hterms (by decide)

end MailSearch
