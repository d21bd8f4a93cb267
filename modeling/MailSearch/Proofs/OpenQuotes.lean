import Mathlib.Data.List.Basic
import Mathlib.Data.List.TakeWhile
import MailSearch.Proofs.FaultPositions

/-!
# Texts with an open quote

A quote opens a text only where a token may begin; elsewhere it closes one, or is a character of a
bareword. So whether a quote is open depends on all that stands before it.
`tokenize_error_iff`: a text is not tokenized exactly if it can be divided at a quote behind which
there is no other, such that the part before it is tokenized and a token may begin behind that part
(`LeavesOpen`). There is one such place at most, and the error is about it.

A token may begin at the beginning, behind a blank, a delimiter or a closing quote
(`TokenMayBegin`). That is a condition on the text; `Laid.mayBegin_iff` turns it into one on the
layout, where it says that no bareword comes right before. `Laid.scan_of_leaves` is the other
direction of `Laid.leaves_of_scan`: what is laid out is scanned to its lexemes and ends in what is
left behind them.
-/

namespace MailSearch

/-! ## Where a token may begin -/

/-- A token may begin behind a text that has these lexemes: the text is empty, or it ends with a
blank or a delimiter, or with the closing quote of one of its lexemes. -/
inductive TokenMayBegin (ls : List Lexeme) : String → Prop where
  | start : TokenMayBegin ls ""
  | divider {front : String} {c : Char} (hc : isSpacing c = true ∨ isDelimiterChar c = true) :
      TokenMayBegin ls (front ++ String.singleton c)
  | quote {front text : String} (h : ⟨front.utf8ByteSize, .quote text⟩ ∈ ls) :
      TokenMayBegin ls (front ++ (Token.quote text).display)

/-- The text is divided at a quote that is never closed. -/
structure LeavesOpen (text front rest : String) : Prop where
  divided : text = front ++ "\"" ++ rest
  /-- No quote comes after it. -/
  unclosed : '"' ∉ rest.toList
  /-- It does not close another one, and is no part of a bareword. -/
  opens : ∃ ls, tokenize front = .ok ls ∧ TokenMayBegin ls front

/-- What stands before a token ends before it does. -/
theorem Laid.end_le {text : String} {ls : List Lexeme} (h : Laid text ls) :
    ∀ l ∈ ls, l.position + l.token.display.utf8ByteSize ≤ text.utf8ByteSize := by
  induction h with
  | nil => exact List.forall_mem_nil _
  | snoc h _ _ _ ih =>
    intro l hl
    simp only [String.utf8ByteSize_append]
    rcases List.mem_append.1 hl with hl | hl
    · have := ih l hl
      omega
    · obtain rfl := List.mem_singleton.1 hl
      simp only [String.utf8ByteSize_append]
      omega

/-- A bareword is made of word characters, and of one at least. -/
theorem Token.Written.bareword {t : Token} (h : t.Written) (hword : t.isBareword) :
    t.quoted = false ∧ t.display.toList ≠ [] ∧ ∀ c ∈ t.display.toList, isWordChar c := by
  cases h with
  | quote => cases hword
  | delimiter hc =>
    simp only [isDelimiterChar, Bool.or_eq_true, beq_iff_eq] at hc
    rcases hc with (rfl | rfl) | rfl <;> cases hword
  | @word c cs _ hc hcs =>
    rw [toList_display_bare]
    exact ⟨rfl, List.cons_ne_nil _ _, List.forall_mem_cons.2 ⟨hc, hcs⟩⟩

/-- Behind a bareword no token may begin. -/
theorem Laid.not_mayBegin {text blanks : String} {ls : List Lexeme} {t : Token} (h : Laid text ls)
    (ht : t.Written) (hword : t.isBareword) :
    ¬ TokenMayBegin (ls ++ [⟨(text ++ blanks).utf8ByteSize, t⟩]) (text ++ blanks ++ t.display) := by
  obtain ⟨hquoted, hne, hchars⟩ := ht.bareword hword
  intro hbegin
  generalize hwhole : text ++ blanks ++ t.display = whole at hbegin
  have hlist := congrArg String.toList hwhole
  rw [String.toList_append] at hlist
  cases hbegin with
  | start => exact hne (List.append_eq_nil_iff.1 hlist).2
  | @divider front c hc =>
    -- The last character is one of the bareword.
    have hmem : c ∈ t.display.toList := by
      have hlast := congrArg List.getLast? hlist
      rw [List.getLast?_append_of_ne_nil _ hne, String.toList_append, String.toList_singleton,
        List.getLast?_concat] at hlast
      exact List.mem_of_getLast? hlast
    have hwordChar := hchars c hmem
    rw [isWordChar] at hwordChar
    rcases hc with hc | hc <;> simp [hc] at hwordChar
  | @quote front inside hmem =>
    have hsize := congrArg String.utf8ByteSize hwhole
    simp only [String.utf8ByteSize_append] at hsize
    rcases List.mem_append.1 hmem with hmem | hmem
    · -- An earlier lexeme ends before the bareword begins.
      have hend := h.end_le _ hmem
      have hpos : 0 < t.display.utf8ByteSize := by
        rw [← Text.byteLength_toList]
        exact Nat.lt_of_lt_of_le (List.length_pos_iff.2 hne) (Text.length_le_byteLength _)
      simp only at hend
      omega
    · obtain rfl := congrArg Lexeme.token (List.mem_singleton.1 hmem)
      cases hquoted

/-- **A token may begin behind a layout and blanks** exactly if there are blanks or no bareword
comes last. -/
theorem Laid.mayBegin_iff {front blanks : String} {ls : List Lexeme} (h : Laid front ls)
    (hblanks : IsBlanks blanks) :
    TokenMayBegin ls (front ++ blanks) ↔
      ∀ l ∈ ls.getLast?, l.token.isBareword → blanks ≠ "" := by
  constructor
  · rintro hbegin l hl hword rfl
    rw [String.append_empty] at hbegin
    cases h with
    | nil => cases hl
    | snoc h _ ht _ =>
      rw [List.getLast?_concat] at hl
      cases hl
      exact h.not_mayBegin ht hword hbegin
  · intro hgap
    rcases List.eq_nil_or_concat blanks.toList with hnil | ⟨init, c, hconcat⟩
    · obtain rfl := String.toList_eq_nil_iff.1 hnil
      rw [String.append_empty]
      cases h with
      | nil => exact .start
      | @snoc text blanks ls t h _ ht _ =>
        have hnot := hgap ⟨_, t⟩ (by rw [List.getLast?_concat]; rfl)
        cases ht with
        | quote => exact .quote (List.mem_append_right _ (.head _))
        | @delimiter c hc =>
          have hdisplay : (Token.bare (String.ofList [c])).display = String.singleton c := by
            rw [← String.toList_inj, Token.toList_display_bare, String.toList_singleton]
          rw [hdisplay]
          exact .divider (.inr hc)
        | @word c cs _ hc =>
          simp only [isWordChar, Bool.and_eq_true, Bool.not_eq_true'] at hc
          refine absurd rfl (hnot ?_)
          rw [Token.isBareword, isDelimiter_word hc.2]
          rfl
    · have hsplit : front ++ blanks = front ++ String.ofList init ++ String.singleton c := by
        rw [← String.toList_inj]
        simp [hconcat]
      have hc : isSpacing c := hblanks c (by simp [hconcat])
      rw [hsplit]
      exact .divider (.inl hc)

/-! ## Scanning up to an open quote -/

namespace Cursor

/-- A quote that no other quote follows is open. -/
theorem lexeme_unclosed {off : Nat} {cs : List Char} (h : '"' ∉ cs) :
    (Cursor.mk off ('"' :: cs)).lexeme = .openQuote ⟨off, '"' :: cs⟩ := by
  have hnil : cs.dropWhile (· != '"') = [] := by
    rw [List.dropWhile_eq_nil_iff]
    intro c hc
    rw [bne_iff_ne]
    rintro rfl
    exact h hc
  simp only [lexeme, hnil]

/-- Behind the last lexeme the scan ends, and in what is left. -/
theorem scan_of_leaves {off : Nat} {blanks left : List Char} {e : Ending}
    (hblanks : ∀ c ∈ blanks, isSpacing c) (h : e.Leaves (off + Text.byteLength blanks) left) :
    (Cursor.mk off (blanks ++ left)).scan = ⟨[], e⟩ := by
  rw [scan_congr (read_spacing hblanks)]
  generalize off + Text.byteLength blanks = place at h
  cases h with
  | proper =>
    have hread : (Cursor.mk place []).read = .finished ⟨place, []⟩ := rfl
    rw [scan_finished hread]
  | @openQuote _ cs hcs =>
    have hread : (Cursor.mk place ('"' :: cs)).read = .openQuote ⟨place, '"' :: cs⟩ :=
      lexeme_unclosed hcs
    rw [scan_openQuote hread]
    rfl

end Cursor

/-- **What is laid out is scanned up to what is left.** -/
theorem Laid.scan_of_leaves {front blanks : String} {ls : List Lexeme} {left : List Char}
    {e : Ending} (h : Laid front ls) (hblanks : IsBlanks blanks)
    (hends : ∀ l ∈ ls.getLast?, l.token.Ends (blanks.toList ++ left))
    (hleaves : e.Leaves (front ++ blanks).utf8ByteSize left) :
    (Cursor.start (front ++ blanks ++ String.ofList left)).scan = ⟨ls, e⟩ := by
  rw [String.utf8ByteSize_append, ← Text.byteLength_toList blanks] at hleaves
  have hscan := h.scan hends
  rw [Cursor.scan_of_leaves hblanks hleaves, List.append_nil] at hscan
  rw [Cursor.start, ← hscan]
  simp

/-- What is laid out is tokenized, with or without blanks after it. -/
theorem Laid.tokenize_eq {front blanks : String} {ls : List Lexeme} (h : Laid front ls)
    (hblanks : IsBlanks blanks) : tokenize (front ++ blanks) = .ok ls := by
  have hends : ∀ l ∈ ls.getLast?, l.token.Ends (blanks.toList ++ []) := by
    intro l _
    refine .inr (.inr fun c hc => ?_)
    rw [List.append_nil] at hc
    rw [isWordChar, hblanks c (List.mem_of_mem_head? hc)]
    rfl
  have hscan := h.scan_of_leaves hblanks hends (.proper _)
  rw [String.ofList_nil, String.append_empty] at hscan
  rw [tokenize_eq_ok, hscan]
  exact ⟨rfl, rfl⟩

/-! ## Open quotes -/

namespace LeavesOpen

variable {text front rest : String}

/-- The error at an open quote. -/
theorem tokenize_eq (h : LeavesOpen text front rest) :
    tokenize text = .error (.lex front.utf8ByteSize ("\"" ++ rest)) := by
  obtain ⟨rfl, hrest, ls, htokens, hbegin⟩ := h
  obtain ⟨rfl, hproper⟩ := tokenize_eq_ok.1 htokens
  obtain ⟨laid, blanks, htext, hlaid, hblanks⟩ :=
    Laid.of_scan (c := .start front) .nil rfl nofun hproper
  obtain rfl : front = laid ++ blanks := String.toList_inj.1 htext
  rw [List.nil_append] at hlaid
  have hgap := (hlaid.mayBegin_iff hblanks).1 hbegin
  have hends : ∀ l ∈ (Cursor.start (laid ++ blanks)).scan.lexemes.getLast?,
      l.token.Ends (blanks.toList ++ '"' :: rest.toList) := by
    intro l hl
    rw [Token.ends_iff]
    intro hword
    exact Boundary.blanks hblanks fun hnil => hgap l hl hword (String.toList_eq_nil_iff.1 hnil)
  have hscan := hlaid.scan_of_leaves hblanks hends (.openQuote _ hrest)
  have hquote : String.ofList ('"' :: rest.toList) = "\"" ++ rest := by
    rw [← String.toList_inj]
    simp
  rw [hquote, ← String.append_assoc] at hscan
  rw [tokenize, hscan]

/-- **Every error is about an open quote.** -/
theorem of_error {err : Error} (h : tokenize text = .error err) :
    ∃ front rest, LeavesOpen text front rest ∧
      err = .lex front.utf8ByteSize ("\"" ++ rest) := by
  obtain ⟨laid, blanks, left, htext, hlaid, hblanks, hends, hleaves⟩ :=
    Laid.leaves_of_scan (c := .start text) .nil rfl nofun
  rw [List.nil_append] at hlaid hends
  rw [tokenize] at h
  generalize (Cursor.start text).scan.lexemes = ls at *
  generalize (Cursor.start text).scan.ending = e at *
  cases hleaves with
  | proper => cases h
  | @openQuote _ cs hcs =>
    have hquote : String.ofList ('"' :: cs) = "\"" ++ String.ofList cs := by
      rw [← String.toList_inj]
      simp
    have hgap : ∀ l ∈ ls.getLast?, l.token.isBareword → blanks ≠ "" := by
      rintro l hl hword rfl
      cases Token.ends_iff.1 (hends l hl) hword '"' rfl
    refine ⟨laid ++ blanks, String.ofList cs, ⟨?_, ?_, ls, hlaid.tokenize_eq hblanks, ?_⟩, ?_⟩
    · rw [String.append_assoc, ← hquote, ← String.toList_inj, String.toList_append,
        String.toList_ofList, ← htext]
      rfl
    · rw [String.toList_ofList]
      exact hcs
    · exact (hlaid.mayBegin_iff hblanks).2 hgap
    · rw [← hquote]
      exact (Except.error.inj h).symm

/-- A text has one open quote at most. -/
theorem unique {front' rest' : String} (h : LeavesOpen text front rest)
    (h' : LeavesOpen text front' rest') : front = front' ∧ rest = rest' := by
  have herr := h.tokenize_eq.symm.trans h'.tokenize_eq
  simp only [Except.error.injEq, Error.lex.injEq, String.append_right_inj] at herr
  obtain ⟨-, rfl⟩ := herr
  have hdivided := h.divided.symm.trans h'.divided
  simp only [String.append_left_inj] at hdivided
  exact ⟨hdivided, rfl⟩

end LeavesOpen

/-! ## Every other character is recognised -/

/-- The delimiter at the beginning of some characters, and what follows it. -/
def delimiter? : List Char → Option (Token × List Char)
  | [] => none
  | c :: cs => if isDelimiterChar c then some (.bare (String.ofList [c]), cs) else none

/-- The bareword at the beginning of some characters, and what follows it. It has one character at
least. -/
def bareword? (cs : List Char) : Option (Token × List Char) :=
  match cs.takeWhile isWordChar with
  | [] => none
  | c :: word => some (.bare (String.ofList (c :: word)), cs.dropWhile isWordChar)

/-- Where a lexeme begins without a quote there is a delimiter or a bareword, and it is read. -/
theorem Cursor.read_unquoted (c : Cursor) {ch : Char} (hch : ch ∈ c.skipSpacing.rest.head?)
    (hquote : ch ≠ '"') :
    ∃ t rest, (delimiter? c.skipSpacing.rest).or (bareword? c.skipSpacing.rest) = some (t, rest) ∧
      c.read = .found ⟨c.skipSpacing.offset, t⟩
        ⟨c.skipSpacing.offset + t.text.utf8ByteSize, rest⟩ := by
  have hspacing : isSpacing ch = false := head_dropWhile _ ch hch
  rw [Cursor.read]
  generalize c.skipSpacing = here at hch ⊢
  obtain ⟨off, cs⟩ := here
  cases cs with
  | nil => cases hch
  | cons d cs =>
    cases hch
    cases hdelim : isDelimiterChar ch with
    | true =>
      refine ⟨.bare (String.ofList [ch]), cs, by simp [delimiter?, hdelim], ?_⟩
      rw [Cursor.lexeme_delimiter hdelim, Token.bare, Text.utf8ByteSize_ofList,
        (byteLength_delimiter hdelim).1]
    | false =>
      have hword : isWordChar ch := by rw [isWordChar, hspacing, hdelim]; rfl
      refine ⟨.bare (String.ofList (ch :: cs.takeWhile isWordChar)), cs.dropWhile isWordChar,
        by simp [delimiter?, bareword?, hdelim, hword], ?_⟩
      rw [Cursor.lexeme_word hquote hdelim, Token.bare, Text.utf8ByteSize_ofList]

/-! ## Whole texts -/

/-- **A text is not tokenized exactly if it leaves a quote open.** The error is about that quote: it
has the size of what stands before it for its place, and the text from there on for its fragment.
No text leaves two quotes open, and there is no error of another kind: at every place, behind the
blanks, a character that is no quote begins a delimiter or a bareword. -/
theorem tokenize_error_iff (text : String) :
    ((∃ err, tokenize text = .error err) ↔ ∃ front rest, LeavesOpen text front rest) ∧
    (∀ err, tokenize text = .error err ↔ ∃ front rest, LeavesOpen text front rest ∧
      err = .lex front.utf8ByteSize ("\"" ++ rest)) ∧
    (∀ front rest front' rest', LeavesOpen text front rest → LeavesOpen text front' rest' →
      front = front' ∧ rest = rest') ∧
    ∀ (c : Cursor) (ch : Char), ch ∈ c.skipSpacing.rest.head? → ch ≠ '"' →
      ∃ t rest, (delimiter? c.skipSpacing.rest).or (bareword? c.skipSpacing.rest) = some (t, rest) ∧
        c.read = .found ⟨c.skipSpacing.offset, t⟩
          ⟨c.skipSpacing.offset + t.text.utf8ByteSize, rest⟩ := by
  refine ⟨⟨?_, ?_⟩, fun err => ⟨LeavesOpen.of_error, ?_⟩, fun _ _ _ _ => LeavesOpen.unique,
    fun c _ => c.read_unquoted⟩
  · rintro ⟨err, h⟩
    obtain ⟨front, rest, hopen, -⟩ := LeavesOpen.of_error h
    exact ⟨front, rest, hopen⟩
  · rintro ⟨front, rest, h⟩
    exact ⟨_, h.tokenize_eq⟩
  · rintro ⟨front, rest, h, rfl⟩
    exact h.tokenize_eq

-- The first quote is a part of a bareword, the next two enclose a text, and the last one is open.
example : tokenize "a\" \"b\"\"c" = .error (.lex 6 "\"c") := by decide +kernel

end MailSearch
