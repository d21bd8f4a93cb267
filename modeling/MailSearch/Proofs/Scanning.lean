import MailSearch.Token.Lexer

/-!
# Scanning what is written

A token is written as its display. The scanner finds it again wherever it stands, provided that a
bareword is not followed by a character it would swallow (`Token.Written.read`). `Scans` carries
that over to texts: it says to which tokens a piece of text is scanned, whatever comes after it, and
pieces are put together by `Scans.append`. In the other direction, what the scanner finds stands in
the text as it is displayed, after blanks and before a rest that does not go on with it
(`Cursor.read_finds`). So every token of a scan is one that can be written (`Cursor.scan_written`):
a bareword never begins with a quote, and a quoted text holds none.
-/

namespace MailSearch

theorem Text.byteLength_cons (c : Char) (cs : List Char) :
    byteLength (c :: cs) = c.utf8Size + byteLength cs := rfl

/-- Two texts in a row are as long as both together. -/
theorem Text.byteLength_append (cs ds : List Char) :
    byteLength (cs ++ ds) = byteLength cs + byteLength ds := by
  induction cs with
  | nil => exact (Nat.zero_add _).symm
  | cons c cs ih => rw [List.cons_append, byteLength_cons, byteLength_cons, ih, Nat.add_assoc]

/-! ## Tokens that can be written -/

/-- The tokens that stand for themselves in a text. -/
inductive Token.Written : Token → Prop where
  /-- A text between quotes, which holds no quote. -/
  | quote {cs : List Char} (h : '"' ∉ cs) : Written (.quote (String.ofList cs))
  /-- A delimiter. -/
  | delimiter {c : Char} (hc : isDelimiterChar c) : Written (.bare (String.ofList [c]))
  /-- A bareword, which does not begin with a quote. -/
  | word {c : Char} {cs : List Char} (hq : c ≠ '"') (hc : isWordChar c)
      (hcs : ∀ d ∈ cs, isWordChar d) : Written (.bare (String.ofList (c :: cs)))

/-- No bareword goes on here. -/
def Boundary (rest : List Char) : Prop :=
  ∀ c ∈ rest.head?, isWordChar c = false

/-- What may follow a token: anything, unless it is a bareword. -/
def Token.Ends (t : Token) (rest : List Char) : Prop :=
  t.quoted = true ∨ t.isDelimiter = true ∨ Boundary rest

section
variable {p : Char → Bool}

/-- A run ends where the first character stands that does not belong to it. -/
theorem takeWhile_append_stop {cs rest : List Char} (hcs : ∀ c ∈ cs, p c)
    (hrest : ∀ c ∈ rest.head?, p c = false) : (cs ++ rest).takeWhile p = cs := by
  rw [List.takeWhile_append_of_pos hcs]
  cases rest with
  | nil => simp
  | cons c rest => simp [hrest c rfl]

/-- What comes after a run begins there. -/
theorem dropWhile_append_stop {cs rest : List Char} (hcs : ∀ c ∈ cs, p c)
    (hrest : ∀ c ∈ rest.head?, p c = false) : (cs ++ rest).dropWhile p = rest := by
  rw [List.dropWhile_append_of_pos hcs]
  cases rest with
  | nil => rfl
  | cons c rest => simp [hrest c rfl]

end

namespace Cursor

/-- Where no blank follows, none is skipped. -/
theorem skipSpacing_of_head {off : Nat} {cs : List Char}
    (h : ∀ c ∈ cs.head?, isSpacing c = false) : (Cursor.mk off cs).skipSpacing = ⟨off, cs⟩ := by
  cases cs with
  | nil => rfl
  | cons c cs => simp [skipSpacing, h c rfl, Text.byteLength]

/-- Blanks are skipped before anything is read. -/
theorem read_spacing {off : Nat} {sp cs : List Char} (h : ∀ c ∈ sp, isSpacing c) :
    (Cursor.mk off (sp ++ cs)).read = (Cursor.mk (off + Text.byteLength sp) cs).read := by
  simp only [read, skipSpacing]
  rw [List.takeWhile_append_of_pos h, List.dropWhile_append_of_pos h, Text.byteLength_append,
    Nat.add_assoc]

/-- A quote opens a text up to the next quote. -/
theorem lexeme_quote {off : Nat} {cs rest : List Char} (h : '"' ∉ cs) :
    (Cursor.mk off ('"' :: (cs ++ '"' :: rest))).lexeme =
      .found ⟨off, .quote (String.ofList cs)⟩ ⟨off + Text.byteLength cs + 2, rest⟩ := by
  have hcs : ∀ c ∈ cs, (c != '"') = true := by
    intro c hc
    rw [bne_iff_ne]
    rintro rfl
    exact h hc
  have hstop : ∀ c ∈ ('"' :: rest).head?, (c != '"') = false := by
    intro c hc
    cases hc
    rfl
  simp only [lexeme, takeWhile_append_stop hcs hstop, dropWhile_append_stop hcs hstop]

/-- A delimiter is a token by itself. -/
theorem lexeme_delimiter {off : Nat} {c : Char} {cs : List Char} (hc : isDelimiterChar c) :
    (Cursor.mk off (c :: cs)).lexeme = .found ⟨off, .bare (String.ofList [c])⟩ ⟨off + 1, cs⟩ := by
  simp only [isDelimiterChar, Bool.or_eq_true, beq_iff_eq] at hc
  rcases hc with (rfl | rfl) | rfl <;> rfl

/-- Any other character begins a bareword. -/
theorem lexeme_word {off : Nat} {c : Char} {cs : List Char} (hq : c ≠ '"')
    (hc : isDelimiterChar c = false) :
    (Cursor.mk off (c :: cs)).lexeme =
      .found ⟨off, .bare (String.ofList (c :: cs.takeWhile isWordChar))⟩
        ⟨off + Text.byteLength (c :: cs.takeWhile isWordChar), cs.dropWhile isWordChar⟩ := by
  unfold lexeme
  split
  next h => cases h
  next h => cases h; exact absurd rfl hq
  next d ds _ h =>
    obtain ⟨rfl, rfl⟩ := List.cons.inj h
    rw [hc]
    rfl

end Cursor

/-- A bareword is no delimiter. -/
theorem isDelimiter_word {c : Char} {cs : List Char} (hc : isDelimiterChar c = false) :
    (Token.bare (String.ofList (c :: cs))).isDelimiter = false := by
  simp only [isDelimiterChar, Bool.or_eq_false_iff, beq_eq_false_iff_ne] at hc
  simp only [Token.isDelimiter, Token.bare, Bool.not_false, Bool.true_and, Bool.or_eq_false_iff,
    beq_eq_false_iff_ne, ne_eq, ← String.toList_inj, String.toList_ofList]
  refine ⟨⟨?_, ?_⟩, ?_⟩
  · exact fun h => hc.1.1 (List.cons.inj h).1
  · exact fun h => hc.1.2 (List.cons.inj h).1
  · exact fun h => hc.2 (List.cons.inj h).1

/-! ## Displays -/

/-- A quoted token is displayed between two quotes. -/
theorem Token.toList_display_quote (cs : List Char) :
    (Token.quote (String.ofList cs)).display.toList = '"' :: cs ++ ['"'] := by
  simp [display, quote]

/-- A bare token is displayed as it is. -/
theorem Token.toList_display_bare (cs : List Char) :
    (Token.bare (String.ofList cs)).display.toList = cs := by
  simp [display, bare]

/-- The two quotes take a byte each. -/
theorem Text.byteLength_quoted (cs : List Char) :
    byteLength ('"' :: cs ++ ['"']) = byteLength cs + 2 := by
  have hquote : '"'.utf8Size = 1 := rfl
  have hlast : byteLength ['"'] = 1 := rfl
  rw [byteLength_append, byteLength_cons, hquote, hlast]
  omega

/-- A delimiter is one byte, and no blank. -/
theorem byteLength_delimiter {c : Char} (hc : isDelimiterChar c) :
    Text.byteLength [c] = 1 ∧ isSpacing c = false := by
  simp only [isDelimiterChar, Bool.or_eq_true, beq_iff_eq] at hc
  rcases hc with (rfl | rfl) | rfl <;> exact ⟨rfl, rfl⟩

/-- A token that is written is read again. -/
theorem Token.Written.read {t : Token} (h : t.Written) {rest : List Char} (hends : t.Ends rest)
    (off : Nat) :
    (Cursor.mk off (t.display.toList ++ rest)).read =
      .found ⟨off, t⟩ ⟨off + Text.byteLength t.display.toList, rest⟩ := by
  cases h with
  | @quote cs h =>
    rw [toList_display_quote, Text.byteLength_quoted, List.append_assoc, List.cons_append,
      List.singleton_append, Cursor.read,
      Cursor.skipSpacing_of_head (by intro c hc; cases hc; rfl), Cursor.lexeme_quote h,
      Nat.add_assoc]
  | @delimiter c hc =>
    obtain ⟨hlength, hspacing⟩ := byteLength_delimiter hc
    rw [toList_display_bare, hlength, List.singleton_append, Cursor.read,
      Cursor.skipSpacing_of_head (by intro d hd; cases hd; exact hspacing),
      Cursor.lexeme_delimiter hc]
  | @word c cs hq hc hcs =>
    simp only [isWordChar, Bool.and_eq_true, Bool.not_eq_true'] at hc
    have hstop : Boundary rest := by
      rcases hends with hquoted | hdelim | hstop
      · cases hquoted
      · rw [isDelimiter_word hc.2] at hdelim
        cases hdelim
      · exact hstop
    rw [toList_display_bare, List.cons_append, Cursor.read,
      Cursor.skipSpacing_of_head (by intro d hd; cases hd; exact hc.1), Cursor.lexeme_word hq hc.2,
      takeWhile_append_stop hcs hstop, dropWhile_append_stop hcs hstop]

/-! ## What is found -/

/-- What is left begins with a character of another kind, if with any. -/
theorem head_dropWhile {p : Char → Bool} (cs : List Char) :
    ∀ c ∈ (cs.dropWhile p).head?, p c = false := by
  intro c hc
  have := List.head?_dropWhile_not p cs
  rw [hc] at this
  exact this

/-- What it means that a lexeme is found, after some blanks, and that `after` is the place behind
it. -/
structure Cursor.Finds (c : Cursor) (blanks : List Char) (l : Lexeme) (after : Cursor) : Prop where
  spacing : ∀ ch ∈ blanks, isSpacing ch
  written : l.token.Written
  text : c.rest = blanks ++ (l.token.display.toList ++ after.rest)
  position : l.position = c.offset + Text.byteLength blanks
  offset : after.offset = l.position + Text.byteLength l.token.display.toList
  ends : l.token.Ends after.rest

namespace Cursor

/-- A lexeme that is found where no blank follows. -/
theorem lexeme_finds {off : Nat} {cs : List Char} {l : Lexeme} {after : Cursor}
    (hhead : ∀ c ∈ cs.head?, isSpacing c = false) (h : (Cursor.mk off cs).lexeme = .found l after) :
    (Cursor.mk off cs).Finds [] l after := by
  unfold lexeme at h
  split at h
  next => cases h
  next tail hcs =>
    have hcs : cs = '"' :: tail := hcs
    dsimp only at h
    split at h
    next => cases h
    next q rest hrest =>
      obtain ⟨rfl, rfl⟩ := Reading.found.inj h
      have hinside : '"' ∉ tail.takeWhile (· != '"') := by
        intro hmem
        have := List.all_eq_true.1 List.all_takeWhile _ hmem
        simp at this
      have hq : q = '"' := by
        have := head_dropWhile (p := (· != '"')) tail q (by rw [hrest]; rfl)
        simpa using this
      have htail : tail = tail.takeWhile (· != '"') ++ '"' :: rest := by
        rw [hq] at hrest
        rw [← hrest, List.takeWhile_append_dropWhile]
      refine ⟨nofun, .quote hinside, ?_, rfl, ?_, .inl rfl⟩
      · rw [Token.toList_display_quote, hcs]
        simpa using htail
      · rw [Token.toList_display_quote, Text.byteLength_quoted, Nat.add_assoc]
  next c tail hq hcs =>
    have hcs : cs = c :: tail := hcs
    subst hcs
    split at h
    next hdelim =>
      obtain ⟨rfl, rfl⟩ := Reading.found.inj h
      refine ⟨nofun, .delimiter hdelim, ?_, rfl, ?_, .inr (.inl ?_)⟩
      · rw [Token.toList_display_bare]
        rfl
      · rw [Token.toList_display_bare, (byteLength_delimiter hdelim).1]
      · simp only [isDelimiterChar, Bool.or_eq_true, beq_iff_eq] at hdelim
        rcases hdelim with (rfl | rfl) | rfl <;> rfl
    next hdelim =>
      obtain ⟨rfl, rfl⟩ := Reading.found.inj h
      have hc : isWordChar c := by
        rw [isWordChar, hhead c rfl, Bool.eq_false_iff.2 hdelim]
        rfl
      refine ⟨nofun, .word hq hc fun d hd => List.all_eq_true.1 List.all_takeWhile d hd, ?_, rfl,
        ?_, .inr (.inr (head_dropWhile _))⟩
      · rw [Token.toList_display_bare, List.nil_append, List.cons_append,
          List.takeWhile_append_dropWhile]
      · rw [Token.toList_display_bare]

/-- Nothing is found only at the end of the text. -/
theorem lexeme_finished {c here : Cursor} (h : c.lexeme = .finished here) :
    here = c ∧ c.rest = [] := by
  unfold lexeme at h
  split at h
  next hnil => exact ⟨(Reading.finished.inj h).symm, hnil⟩
  next =>
    dsimp only at h
    split at h <;> cases h
  next => split at h <;> cases h

/-- A quote is open only if no other quote follows it. -/
theorem lexeme_openQuote {c here : Cursor} (h : c.lexeme = .openQuote here) :
    here = c ∧ ∃ cs, c.rest = '"' :: cs ∧ '"' ∉ cs := by
  unfold lexeme at h
  split at h
  next => cases h
  next cs hrest =>
    dsimp only at h
    split at h
    next hnil =>
      have hall : cs.takeWhile (· != '"') = cs := by
        have := List.takeWhile_append_dropWhile (p := (· != '"')) (l := cs)
        rwa [hnil, List.append_nil] at this
      refine ⟨(Reading.openQuote.inj h).symm, cs, hrest, fun hmem => ?_⟩
      rw [← hall] at hmem
      have hother := List.all_eq_true.1 List.all_takeWhile _ hmem
      simp at hother
    next => cases h
  next => split at h <;> cases h

/-- What is skipped is blank, and it is counted. -/
theorem skipSpacing_spec (c : Cursor) : ∃ blanks, (∀ ch ∈ blanks, isSpacing ch) ∧
    c.rest = blanks ++ c.skipSpacing.rest ∧
    c.skipSpacing.offset = c.offset + Text.byteLength blanks :=
  ⟨c.rest.takeWhile isSpacing, fun _ hch => List.all_eq_true.1 List.all_takeWhile _ hch,
    List.takeWhile_append_dropWhile.symm, rfl⟩

/-- **What is read stands in the text**: blanks, a token as it is displayed, and the rest, which
does not go on with the token. -/
theorem read_finds {c after : Cursor} {l : Lexeme} (h : c.read = .found l after) :
    ∃ blanks, c.Finds blanks l after := by
  have hfinds := lexeme_finds (head_dropWhile _) h
  have htext : c.rest.dropWhile isSpacing = l.token.display.toList ++ after.rest := hfinds.text
  refine ⟨c.rest.takeWhile isSpacing, fun d hd => List.all_eq_true.1 List.all_takeWhile d hd,
    hfinds.written, ?_, hfinds.position, hfinds.offset, hfinds.ends⟩
  rw [← htext, List.takeWhile_append_dropWhile]

end Cursor

/-! ## Texts and the tokens they are scanned to -/

namespace Cursor

/-- A lexeme that is found comes first, and the others are found after it. -/
theorem scan_found {c after : Cursor} {l : Lexeme} (h : c.read = .found l after) :
    c.scan = ⟨l :: after.scan.lexemes, after.scan.ending⟩ := by
  rw [scan]
  split
  next h' => rw [h] at h'; cases h'; rfl
  next h' => rw [h] at h'; cases h'
  next h' => rw [h] at h'; cases h'

/-- At the end nothing is found, and the text has a proper end. -/
theorem scan_finished {c here : Cursor} (h : c.read = .finished here) :
    c.scan = ⟨[], .proper here.offset⟩ := by
  rw [scan]
  split
  next h' => rw [h] at h'; cases h'
  next h' => rw [h] at h'; cases h'; rfl
  next h' => rw [h] at h'; cases h'

/-- At a quote that is never closed nothing more is found. -/
theorem scan_openQuote {c here : Cursor} (h : c.read = .openQuote here) :
    c.scan = ⟨[], .openQuote here.offset here.remaining⟩ := by
  rw [scan]
  split
  next h' => rw [h] at h'; cases h'
  next h' => rw [h] at h'; cases h'
  next h' => rw [h] at h'; cases h'; rfl

/-- What is scanned depends on the next reading alone. -/
theorem scan_congr {c d : Cursor} (h : c.read = d.read) : c.scan = d.scan := by
  rw [scan, scan]
  split <;> split <;> simp_all

/-- A scan finds only tokens that can be written. -/
theorem scan_written (c : Cursor) : ∀ l ∈ c.scan.lexemes, l.token.Written := by
  induction c using Cursor.scan.induct with
  | case1 c l after h ih =>
    rw [scan_found h]
    intro l' hl'
    rcases List.mem_cons.1 hl' with rfl | hl'
    · obtain ⟨blanks, hfinds⟩ := read_finds h
      exact hfinds.written
    · exact ih l' hl'
  | case2 c here h =>
    rw [scan_finished h]
    exact fun l hl => nomatch hl
  | case3 c here h =>
    rw [scan_openQuote h]
    exact fun l hl => nomatch hl

end Cursor

/-- The characters `cs` are scanned to the tokens `ts`, before anything that `follow` allows. -/
def Scans (follow : List Char → Prop) (cs : List Char) (ts : List Token) : Prop :=
  ∀ off rest, follow rest → ∃ ls : List Lexeme, ls.map Lexeme.token = ts ∧
    (Cursor.mk off (cs ++ rest)).scan =
      ⟨ls ++ (Cursor.mk (off + Text.byteLength cs) rest).scan.lexemes,
        (Cursor.mk (off + Text.byteLength cs) rest).scan.ending⟩

namespace Scans

variable {P Q : List Char → Prop} {cs ds : List Char} {ts us : List Token}

/-- One piece after the other. -/
theorem append (h : Scans P cs ts) (h' : Scans Q ds us)
    (hfollow : ∀ rest, Q rest → P (ds ++ rest)) : Scans Q (cs ++ ds) (ts ++ us) := by
  intro off rest hrest
  obtain ⟨ls, rfl, hls⟩ := h off (ds ++ rest) (hfollow rest hrest)
  obtain ⟨ls', rfl, hls'⟩ := h' (off + Text.byteLength cs) rest hrest
  refine ⟨ls ++ ls', List.map_append, ?_⟩
  rw [List.append_assoc, hls, hls', Text.byteLength_append, Nat.add_assoc, List.append_assoc]

/-- A token. -/
theorem token {t : Token} (h : t.Written) : Scans t.Ends t.display.toList [t] := by
  intro off rest hrest
  exact ⟨[⟨off, t⟩], rfl, Cursor.scan_found (h.read hrest off)⟩

/-- Blanks. -/
theorem spacing (h : ∀ c ∈ cs, isSpacing c) : Scans (fun _ => True) cs [] := by
  intro off rest _
  exact ⟨[], rfl, Cursor.scan_congr (Cursor.read_spacing h)⟩

/-- Less may be allowed to follow. -/
theorem weaken (h : Scans P cs ts) (hfollow : ∀ rest, Q rest → P rest) : Scans Q cs ts :=
  fun off rest hrest => h off rest (hfollow rest hrest)

/-- The text as a whole. -/
theorem start {text : String} (h : Scans P text.toList ts) (hnil : P []) :
    ∃ ls : List Lexeme, ls.map Lexeme.token = ts ∧
      (Cursor.start text).scan = ⟨ls, .proper (Text.byteLength text.toList)⟩ := by
  obtain ⟨ls, hts, hscan⟩ := h 0 [] hnil
  have hread : ∀ off, (Cursor.mk off []).read = .finished ⟨off, []⟩ := fun _ => rfl
  rw [Cursor.scan_finished (hread _), List.append_nil, List.append_nil, Nat.zero_add] at hscan
  exact ⟨ls, hts, hscan⟩

end Scans

end MailSearch
