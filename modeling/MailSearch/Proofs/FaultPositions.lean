import MailSearch.Proofs.Cutting
import MailSearch.Proofs.Faults

/-!
# Where faults are reported

`Scan.parse_error` says that a lexeme or the end of the text is at fault. Here this is said about
the text. A lexeme stands in the text at its position, for the text can be cut there
(`Cursor.lexeme_standsAt`), and before an open quote if there is one (`Cursor.position_lt`). A text
that ends properly ends at its size (`Cursor.ending_offset`). What is left is the text without a
single lexeme: it is all blanks, and for that nothing is at fault (`Query.parse_eq_empty`).

`parse_error_located` puts these together.
-/

namespace MailSearch

open Grammar

/-! ## Lexemes stand in the text -/

/-- The token of a lexeme stands in the text, with as many bytes before it as its position says. -/
def Lexeme.StandsAt (l : Lexeme) (text : String) : Prop :=
  ∃ before after, text = before ++ l.token.display ++ after ∧ before.utf8ByteSize = l.position

/-- A token that can be written is not written as nothing. -/
theorem Token.Written.display_ne_nil {t : Token} (h : t.Written) : t.display.toList ≠ [] := by
  cases h with
  | quote => simp [toList_display_quote]
  | delimiter | word => simp

namespace Cursor

/-- Every lexeme of a text is found at its place in the text. -/
theorem lexeme_standsAt {text : String} {l : Lexeme} (h : l ∈ (start text).scan.lexemes) :
    l.StandsAt text := by
  obtain ⟨used, rest, hscan⟩ := List.append_of_mem h
  obtain ⟨front, back, hcut⟩ := cut hscan (.lexeme l rest)
  obtain ⟨after, rfl⟩ := hcut.next l rfl
  refine ⟨String.ofList front, String.ofList after, ?_, ?_⟩
  · have htext : text.toList = front ++ (l.token.display.toList ++ after) := hcut.text
    rw [← String.toList_inj, htext]
    simp
  · have hplace : l.position = 0 + Text.byteLength front := hcut.place
    rw [hplace, Nat.zero_add, Text.utf8ByteSize_ofList]

/-- A text that ends properly ends at its size. -/
theorem ending_offset {text : String} {offset : Nat}
    (h : (start text).scan.ending = .proper offset) : offset = text.utf8ByteSize := by
  obtain ⟨front, back, hcut⟩ := cut (List.append_nil _).symm (.ending h)
  have htext : text.toList = front ++ back := hcut.text
  rw [hcut.last rfl, List.append_nil] at htext
  have hplace : offset = 0 + Text.byteLength front := hcut.place
  rw [hplace, Nat.zero_add, ← htext, Text.byteLength_toList]

/-- A lexeme takes a byte at least, so the place behind it comes after its position. -/
theorem Finds.position_lt {c after : Cursor} {blanks : List Char} {l : Lexeme}
    (h : c.Finds blanks l after) : c.offset ≤ l.position ∧ l.position < after.offset := by
  have hpos := List.length_pos_iff.2 h.written.display_ne_nil
  have hle := Text.length_le_byteLength l.token.display.toList
  rw [h.offset, h.position]
  omega

/-- The place of an open quote comes after the blanks before it. -/
theorem openQuote_offset {c here : Cursor} (h : c.read = .openQuote here) :
    c.offset ≤ here.offset := by
  obtain ⟨rfl, -⟩ := lexeme_openQuote h
  exact Nat.le_add_right _ _

/-- **An open quote comes after every lexeme.** -/
theorem position_lt {c : Cursor} {place : Nat} {fragment : String}
    (h : c.scan.ending = .openQuote place fragment) :
    c.offset ≤ place ∧ ∀ l ∈ c.scan.lexemes, l.position < place := by
  induction c using Cursor.scan.induct with
  | case1 c l after hread ih =>
    obtain ⟨blanks, hfinds⟩ := read_finds hread
    obtain ⟨hbefore, hbehind⟩ := hfinds.position_lt
    rw [scan_found hread] at h ⊢
    obtain ⟨hafter, hlater⟩ := ih h
    refine ⟨by omega, fun l' hl' => ?_⟩
    rcases List.mem_cons.1 hl' with rfl | hl'
    · omega
    · exact hlater l' hl'
  | case2 c here hread =>
    rw [scan_finished hread] at h
    cases h
  | case3 c here hread =>
    rw [scan_openQuote hread] at h ⊢
    cases h
    exact ⟨openQuote_offset hread, List.forall_mem_nil _⟩

end Cursor

/-! ## Texts without a lexeme -/

/-- A text of blanks has no lexeme, and ends properly. No other text does. -/
theorem Cursor.scan_blanks {text : String} :
    (Cursor.start text).scan.lexemes = [] ∧ (Cursor.start text).scan.ending.check = .ok () ↔
      IsBlanks text := by
  constructor
  · rintro ⟨hnil, hproper⟩
    obtain ⟨front, blanks, htext, hlaid, hblanks⟩ :=
      Laid.of_scan (c := .start text) .nil rfl nofun hproper
    rw [hnil, List.nil_append] at hlaid
    generalize hls : ([] : List Lexeme) = ls at hlaid
    cases hlaid with
    | nil =>
      obtain rfl : text = blanks := by simpa using String.toList_inj.1 htext
      exact hblanks
    | snoc => simp at hls
  · intro h
    have hread : (Cursor.start text).read = .finished ⟨0 + Text.byteLength text.toList, []⟩ := by
      rw [Cursor.start, ← List.append_nil text.toList, Cursor.read_spacing h, List.append_nil]
      rfl
    rw [Cursor.scan_finished hread]
    exact ⟨rfl, rfl⟩

/-- Without lexemes nothing is at fault but the way the text ends. -/
theorem Scan.parse_nil (e : Ending) (o : ParseOptions) :
    Scan.parse ⟨[], e⟩ o = (do e.check; .error .empty) := by
  rw [Scan.parse_eq, Parser.readQuery_nil]
  cases e.check <;> rfl

/-- **A text is empty if it is all blanks**, and not otherwise. -/
theorem Query.parse_eq_empty {text : String} {o : ParseOptions} :
    Query.parse text o = .error .empty ↔ IsBlanks text := by
  rw [← Cursor.scan_blanks, Query.parse]
  generalize (Cursor.start text).scan = s
  obtain ⟨ls, e⟩ := s
  constructor
  · intro h
    rcases Scan.parse_error h with ⟨-, rfl⟩ | hblames
    · rw [Scan.parse_nil] at h
      cases e with
      | proper => exact ⟨rfl, rfl⟩
      | openQuote => cases h
    · -- What is blamed is a token or the end, and neither makes a text empty.
      generalize herr : Error.empty = err at hblames
      cases hblames with
      | lexeme => cases herr
      | ending => cases e <;> cases herr
  · rintro ⟨rfl, hcheck⟩
    rw [Scan.parse_nil, hcheck]
    rfl

/-! ## Faults of a text -/

/-- An open quote that the parser reports is the one that keeps the text from being tokenized. -/
theorem Query.parse_eq_lex {text : String} {o : ParseOptions} {place : Nat} {fragment : String}
    (h : Query.parse text o = .error (.lex place fragment)) :
    tokenize text = .error (.lex place fragment) := by
  rcases Scan.parse_error h with ⟨hempty, -⟩ | hblames
  · cases hempty
  · rw [tokenize]
    generalize herr : Error.lex place fragment = err at hblames
    cases hblames with
    | lexeme => cases herr
    | ending fault =>
      cases hending : (Cursor.start text).scan.ending with
      | proper =>
        rw [hending] at herr
        cases herr
      | openQuote => rfl

/-- Any other fault is reported at a lexeme, or at the end of a text that ends properly. -/
theorem Query.parse_eq_fault {text : String} {o : ParseOptions} {place : Nat} {fault : Fault}
    (h : Query.parse text o = .error (.parse place fault)) :
    (∃ l ∈ (Cursor.start text).scan.lexemes, l.position = place) ∨
      (Cursor.start text).scan.ending = .proper place := by
  rcases Scan.parse_error h with ⟨hempty, -⟩ | hblames
  · cases hempty
  · generalize herr : Error.parse place fault = err at hblames
    cases hblames with
    | @lexeme l hl =>
      cases herr
      exact .inl ⟨l, hl, rfl⟩
    | ending =>
      cases hending : (Cursor.start text).scan.ending with
      | proper =>
        rw [hending] at herr
        cases herr
        exact .inr rfl
      | openQuote =>
        rw [hending] at herr
        cases herr

/-- **Faults are classified and located.** A text that is not parsed is empty, has an open quote, or
has a fault in its tokens. It is empty exactly if it is all blanks. An open quote that is reported
is the one that the tokenizer reports. A fault in the tokens is reported where one of them stands,
before any open quote, or at the end of a text that can be tokenized. -/
theorem parse_error_located (text : String) (o : ParseOptions) :
    (∀ err, Query.parse text o = .error err → err = .empty ∨
      (∃ place fragment, err = .lex place fragment) ∨ ∃ place fault, err = .parse place fault) ∧
    (Query.parse text o = .error .empty ↔ IsBlanks text) ∧
    (∀ place fragment, Query.parse text o = .error (.lex place fragment) →
      tokenize text = .error (.lex place fragment)) ∧
    (∀ place fault, Query.parse text o = .error (.parse place fault) →
      (∃ l ∈ (Cursor.start text).scan.lexemes, l.position = place ∧ l.StandsAt text ∧
        ∀ quote fragment, tokenize text = .error (.lex quote fragment) → place < quote) ∨
      (place = text.utf8ByteSize ∧ ∃ ls, tokenize text = .ok ls)) := by
  refine ⟨fun err h => ?_, Query.parse_eq_empty, fun place fragment => Query.parse_eq_lex,
    fun place fault h => ?_⟩
  · have hsyntax := Query.parse_error_isSyntax h
    cases err with
    | empty => exact .inl rfl
    | lex => exact .inr (.inl ⟨_, _, rfl⟩)
    | parse => exact .inr (.inr ⟨_, _, rfl⟩)
    | violation | config | io => cases hsyntax
  · rcases Query.parse_eq_fault h with ⟨l, hl, rfl⟩ | hending
    · refine .inl ⟨l, hl, rfl, Cursor.lexeme_standsAt hl, fun quote fragment hquote => ?_⟩
      rw [tokenize] at hquote
      split at hquote
      next => cases hquote
      next hending =>
        cases hquote
        exact (Cursor.position_lt hending).2 l hl
    · refine .inr ⟨Cursor.ending_offset hending, _, tokenize_eq_ok.2 ⟨rfl, ?_⟩⟩
      rw [hending]
      rfl

/-- A parenthesis too many is reported although a quote is open behind it, a group that is not
closed only if no quote is open, and a missing value behind the blanks at the end. -/
theorem parse_error_located_kinds :
    (Query.parse "é ) \"b" {} = .error (.parse 3 (.unexpected (.bare ")"))) ∧
      ∀ quote fragment, tokenize "é ) \"b" = .error (.lex quote fragment) → 3 < quote) ∧
    (Query.parse "(a \"b" {} = .error (.lex 3 "\"b") ∧
      tokenize "(a \"b" = .error (.lex 3 "\"b")) ∧
    (Query.parse "from: \n" {} = .error (.parse 7 (.missingValue (.bare "from") none)) ∧
      ∃ ls, tokenize "from: \n" = .ok ls) ∧
    Query.parse " \t\n" {} = .error .empty := by
  have hclose : Query.parse "é ) \"b" {} = .error (.parse 3 (.unexpected (.bare ")"))) := by
    decide +kernel
  have hquote : Query.parse "(a \"b" {} = .error (.lex 3 "\"b") := by decide +kernel
  have hvalue : Query.parse "from: \n" {} =
      .error (.parse 7 (.missingValue (.bare "from") none)) := by decide +kernel
  refine ⟨⟨hclose, ?_⟩, ⟨hquote, (parse_error_located _ {}).2.2.1 _ _ hquote⟩, ⟨hvalue, ?_⟩,
    (parse_error_located _ {}).2.1.2 (List.all_eq_true.1 rfl)⟩
  · rcases (parse_error_located _ {}).2.2.2 _ _ hclose with ⟨l, -, -, -, hbefore⟩ | ⟨hend, -⟩
    · exact hbefore
    · exact absurd hend (by decide)
  · have hnone : ∀ l ∈ (Cursor.start "from: \n").scan.lexemes, l.position ≠ 7 := by decide +kernel
    rcases (parse_error_located _ {}).2.2.2 _ _ hvalue with ⟨l, hl, hplace, -⟩ | ⟨-, hls⟩
    · exact absurd hplace (hnone l hl)
    · exact hls

end MailSearch
