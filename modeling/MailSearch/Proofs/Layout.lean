import MailSearch.Proofs.Rules
import MailSearch.Proofs.Scanning

/-!
# Texts as tokens with blanks between them

`Laid text ls` describes a text without the scanner: it is built up token by token, with blanks
before each one, and each lexeme has for its position the number of bytes of what stands before it.
A bareword would swallow what follows, so blanks must come between it and the next token unless that
is a delimiter.

`tokenize_iff_laid`: a text is tokenized to some lexemes exactly if it is laid out as these lexemes
and blanks after them. Both directions go along the scanner, which has a part of the text behind it
and a part before it:

* what is laid out is scanned again before any rest that does not go on with its last token
  (`Laid.scan`);
* the scanner keeps to a layout: what it has behind it is laid out, whatever it began with
  (`Laid.of_scan`).
-/

namespace MailSearch

/-- The size of a text is that of its characters together. -/
theorem Text.utf8ByteSize_ofList (cs : List Char) :
    (String.ofList cs).utf8ByteSize = byteLength cs := by
  induction cs with
  | nil => rfl
  | cons c cs ih =>
    have hcons : String.ofList (c :: cs) = String.singleton c ++ String.ofList cs := by simp
    rw [hcons, String.utf8ByteSize_append, String.utf8ByteSize_singleton, ih, byteLength_cons]

/-- The characters of a text are together as long as the text. -/
theorem Text.byteLength_toList (s : String) : byteLength s.toList = s.utf8ByteSize := by
  rw [← utf8ByteSize_ofList, String.ofList_toList]

/-! ## Layouts -/

/-- A text of spaces, tabs and line feeds only. -/
def IsBlanks (w : String) : Prop :=
  ∀ c ∈ w.toList, isSpacing c

/-- A token that is neither quoted nor a delimiter. -/
def Token.isBareword (t : Token) : Bool :=
  !t.quoted && !t.isDelimiter

/-- The text is the tokens of the lexemes as they are displayed, with blanks before each. It ends
with the last token. -/
inductive Laid : String → List Lexeme → Prop where
  | nil : Laid "" []
  /-- One token more. Its position is the number of bytes before it, and it does not touch a
  bareword unless it is a delimiter. -/
  | snoc {text blanks : String} {ls : List Lexeme} {t : Token} (h : Laid text ls)
      (hblanks : IsBlanks blanks) (ht : t.Written)
      (hgap : ∀ l ∈ ls.getLast?, l.token.isBareword → t.isDelimiter = false → blanks ≠ "") :
      Laid (text ++ blanks ++ t.display) (ls ++ [⟨(text ++ blanks).utf8ByteSize, t⟩])

/-! ## Boundaries -/

/-- A bareword ends at spacing. -/
theorem Boundary.blanks {w rest : List Char} (hw : ∀ c ∈ w, isSpacing c) (hne : w ≠ []) :
    Boundary (w ++ rest) := by
  cases w with
  | nil => exact absurd rfl hne
  | cons c w =>
    intro d hd
    cases hd
    rw [isWordChar, hw c (.head _)]
    rfl

/-- No bareword goes on into two texts in a row if it goes on into neither. -/
theorem Boundary.append {cs ds : List Char} (hcs : Boundary cs) (hds : Boundary ds) :
    Boundary (cs ++ ds) := by
  cases cs with
  | nil => exact hds
  | cons c cs => exact hcs

/-- A bareword ends before a delimiter. -/
theorem Token.Written.boundary {t : Token} (h : t.Written) (hdelim : t.isDelimiter)
    (rest : List Char) : Boundary (t.display.toList ++ rest) := by
  cases h with
  | quote => cases hdelim
  | @delimiter c hc =>
    rw [toList_display_bare]
    intro d hd
    cases hd
    rw [isWordChar, hc]
    simp
  | word _ hc =>
    simp only [isWordChar, Bool.and_eq_true, Bool.not_eq_true'] at hc
    rw [isDelimiter_word hc.2] at hdelim
    cases hdelim

/-- A bareword goes on with every other token that touches it. -/
theorem Token.Written.not_boundary {t : Token} (h : t.Written) (hdelim : t.isDelimiter = false)
    (rest : List Char) : ¬ Boundary (t.display.toList ++ rest) := by
  cases h with
  | quote =>
    rw [toList_display_quote]
    intro hb
    cases hb '"' rfl
  | delimiter hc =>
    simp only [isDelimiterChar, Bool.or_eq_true, beq_iff_eq] at hc
    rcases hc with (rfl | rfl) | rfl <;> cases hdelim
  | @word c cs _ hc =>
    rw [toList_display_bare]
    intro hb
    rw [hb c rfl] at hc
    cases hc

/-- Where a bareword ends is a boundary, and any other token ends everywhere. -/
theorem Token.ends_iff {t : Token} {rest : List Char} :
    t.Ends rest ↔ (t.isBareword → Boundary rest) := by
  rw [Ends, isBareword]
  cases t.quoted <;> cases t.isDelimiter <;> simp

/-! ## What is laid out is scanned -/

/-- **What is laid out is scanned to its lexemes**, before any rest that does not go on with the
last one. -/
theorem Laid.scan {text : String} {ls : List Lexeme} (h : Laid text ls) {rest : List Char}
    (hends : ∀ l ∈ ls.getLast?, l.token.Ends rest) :
    (Cursor.mk 0 (text.toList ++ rest)).scan =
      ⟨ls ++ (Cursor.mk text.utf8ByteSize rest).scan.lexemes,
        (Cursor.mk text.utf8ByteSize rest).scan.ending⟩ := by
  induction h generalizing rest with
  | nil => rfl
  | @snoc text blanks ls t h hblanks ht hgap ih =>
    have hlast : t.Ends rest := hends ⟨_, t⟩ (by rw [List.getLast?_concat]; rfl)
    have hbefore : ∀ l ∈ ls.getLast?, l.token.Ends
        (blanks.toList ++ (t.display.toList ++ rest)) := by
      intro l hl
      rw [Token.ends_iff]
      intro hword
      cases hdelim : t.isDelimiter with
      | false =>
        refine Boundary.blanks hblanks fun hnil => hgap l hl hword hdelim ?_
        exact String.toList_eq_nil_iff.1 hnil
      | true =>
        by_cases hnil : blanks.toList = []
        · rw [hnil]
          exact ht.boundary hdelim rest
        · exact Boundary.blanks hblanks hnil
    have hread : (Cursor.mk text.utf8ByteSize (blanks.toList ++ (t.display.toList ++ rest))).read =
        .found ⟨(text ++ blanks).utf8ByteSize, t⟩
          ⟨(text ++ blanks ++ t.display).utf8ByteSize, rest⟩ := by
      rw [Cursor.read_spacing hblanks, ht.read hlast]
      simp only [Text.byteLength_toList, String.utf8ByteSize_append]
    have hscan := ih hbefore
    rw [Cursor.scan_found hread] at hscan
    simpa using hscan

/-! ## What is scanned is laid out -/

namespace Cursor

/-- Only blanks are left where nothing more is found. -/
theorem blanks_of_finished {c here : Cursor} (h : c.read = .finished here) :
    ∀ ch ∈ c.rest, isSpacing ch := by
  obtain ⟨blanks, hblanks, hrest, -⟩ := c.skipSpacing_spec
  obtain ⟨-, hnil⟩ := lexeme_finished h
  rw [hrest, hnil, List.append_nil]
  exact hblanks

end Cursor

/-- A lexeme that is found lays out one token more. -/
theorem Laid.of_finds {text : String} {ls : List Lexeme} {c after : Cursor} {blanks : List Char}
    {l : Lexeme} (h : Laid text ls) (hfinds : c.Finds blanks l after)
    (hoffset : c.offset = text.utf8ByteSize) (hends : ∀ l ∈ ls.getLast?, l.token.Ends c.rest) :
    Laid (text ++ String.ofList blanks ++ l.token.display) (ls ++ [l]) := by
  have hposition : l.position = (text ++ String.ofList blanks).utf8ByteSize := by
    rw [hfinds.position, hoffset, String.utf8ByteSize_append, Text.utf8ByteSize_ofList]
  have hgap : ∀ l' ∈ ls.getLast?, l'.token.isBareword → l.token.isDelimiter = false →
      String.ofList blanks ≠ "" := by
    intro l' hl' hword hdelim hnil
    have hboundary := Token.ends_iff.1 (hends l' hl') hword
    rw [← String.toList_inj, String.toList_ofList] at hnil
    rw [hfinds.text, hnil] at hboundary
    exact hfinds.written.not_boundary hdelim _ hboundary
  have hblanks : IsBlanks (String.ofList blanks) := by
    rw [IsBlanks, String.toList_ofList]
    exact hfinds.spacing
  have hlaid := Laid.snoc h hblanks hfinds.written hgap
  rwa [← hposition] at hlaid

/-- What is left of a text behind its last lexeme and the blanks there, and at which offset: nothing
if the text ends properly, and otherwise a quote that no other quote follows. -/
inductive Ending.Leaves : Ending → Nat → List Char → Prop where
  | proper (offset : Nat) : Leaves (.proper offset) offset []
  | openQuote (offset : Nat) {cs : List Char} (h : '"' ∉ cs) :
      Leaves (.openQuote offset (String.ofList ('"' :: cs))) offset ('"' :: cs)

/-- **The scanner keeps to a layout.** Where the text behind a place is laid out, the lexemes found
from there on lay out the whole, up to some blanks and what is left of the text after them. -/
theorem Laid.leaves_of_scan {c : Cursor} {text : String} {ls : List Lexeme} (h : Laid text ls)
    (hoffset : c.offset = text.utf8ByteSize) (hends : ∀ l ∈ ls.getLast?, l.token.Ends c.rest) :
    ∃ front blanks left, text.toList ++ c.rest = (front ++ blanks).toList ++ left ∧
      Laid front (ls ++ c.scan.lexemes) ∧ IsBlanks blanks ∧
      (∀ l ∈ (ls ++ c.scan.lexemes).getLast?, l.token.Ends (blanks.toList ++ left)) ∧
      c.scan.ending.Leaves (front ++ blanks).utf8ByteSize left := by
  induction c using Cursor.scan.induct generalizing text ls with
  | case1 c l after hread ih =>
    obtain ⟨blanks, hfinds⟩ := Cursor.read_finds hread
    rw [Cursor.scan_found hread]
    have hlaid := h.of_finds hfinds hoffset hends
    have hafter : after.offset =
        (text ++ String.ofList blanks ++ l.token.display).utf8ByteSize := by
      rw [hfinds.offset, hfinds.position, hoffset, String.utf8ByteSize_append,
        String.utf8ByteSize_append, Text.utf8ByteSize_ofList, Text.byteLength_toList]
    have hlast : ∀ l' ∈ (ls ++ [l]).getLast?, l'.token.Ends after.rest := by
      intro l' hl'
      rw [List.getLast?_concat] at hl'
      cases hl'
      exact hfinds.ends
    obtain ⟨front, rest, left, htext, hfront, hrest⟩ := ih hlaid hafter hlast
    rw [List.append_assoc, List.singleton_append] at hfront hrest
    refine ⟨front, rest, left, ?_, hfront, hrest⟩
    rw [hfinds.text, ← htext]
    simp
  -- Where no lexeme is found the blanks are skipped all the same, and the rest is what is left.
  | case2 c here hread =>
    obtain ⟨blanks, hblanks, hrest, hplace⟩ := c.skipSpacing_spec
    obtain ⟨rfl, hnil⟩ := Cursor.lexeme_finished hread
    rw [Cursor.scan_finished hread, List.append_nil]
    rw [hrest, hnil] at hends ⊢
    refine ⟨text, String.ofList blanks, [], by simp, h, ?_, by simpa using hends, ?_⟩
    · rw [IsBlanks, String.toList_ofList]
      exact hblanks
    · rw [hplace, hoffset, String.utf8ByteSize_append, Text.utf8ByteSize_ofList]
      exact .proper _
  | case3 c here hread =>
    obtain ⟨blanks, hblanks, hrest, hplace⟩ := c.skipSpacing_spec
    obtain ⟨rfl, cs, hquote, hopen⟩ := Cursor.lexeme_openQuote hread
    rw [Cursor.scan_openQuote hread, List.append_nil, Cursor.remaining]
    rw [hrest, hquote] at hends ⊢
    refine ⟨text, String.ofList blanks, '"' :: cs, by simp, h, ?_, by simpa using hends, ?_⟩
    · rw [IsBlanks, String.toList_ofList]
      exact hblanks
    · rw [hplace, hoffset, String.utf8ByteSize_append, Text.utf8ByteSize_ofList]
      exact .openQuote _ hopen

/-- So a text that ends properly is laid out, up to some blanks. -/
theorem Laid.of_scan {c : Cursor} {text : String} {ls : List Lexeme} (h : Laid text ls)
    (hoffset : c.offset = text.utf8ByteSize) (hends : ∀ l ∈ ls.getLast?, l.token.Ends c.rest)
    (hproper : c.scan.ending.check = .ok ()) :
    ∃ front blanks, text.toList ++ c.rest = (front ++ blanks).toList ∧
      Laid front (ls ++ c.scan.lexemes) ∧ IsBlanks blanks := by
  obtain ⟨front, blanks, left, htext, hfront, hblanks, -, hleaves⟩ :=
    h.leaves_of_scan hoffset hends
  generalize c.scan.ending = e at hproper hleaves
  cases hleaves with
  | proper => exact ⟨front, blanks, by simpa using htext, hfront, hblanks⟩
  | openQuote => cases hproper

/-! ## Whole texts -/

/-- **The tokenizer accepts exactly the texts that are laid out.** A text is tokenized to some
lexemes exactly if it is their tokens with blanks before, between and after them, each at the
position that it is said to have. -/
theorem tokenize_iff_laid {text : String} {ls : List Lexeme} :
    tokenize text = .ok ls ↔
      ∃ front blanks, text = front ++ blanks ∧ Laid front ls ∧ IsBlanks blanks := by
  rw [tokenize_eq_ok]
  constructor
  · rintro ⟨rfl, hproper⟩
    obtain ⟨front, blanks, htext, hlaid, hblanks⟩ :=
      Laid.of_scan (c := .start text) .nil rfl nofun hproper
    exact ⟨front, blanks, String.toList_inj.1 htext, hlaid, hblanks⟩
  · rintro ⟨front, blanks, rfl, hlaid, hblanks⟩
    have hread : (Cursor.mk front.utf8ByteSize (blanks.toList ++ [])).read =
        .finished ⟨front.utf8ByteSize + Text.byteLength blanks.toList, []⟩ :=
      Cursor.read_spacing hblanks
    rw [List.append_nil] at hread
    have hends : ∀ l ∈ ls.getLast?, l.token.Ends blanks.toList := by
      intro l _
      rw [Token.ends_iff]
      intro _ c hc
      rw [isWordChar, hblanks c (List.mem_of_mem_head? hc)]
      rfl
    have hscan := hlaid.scan hends
    rw [Cursor.scan_finished hread, List.append_nil, ← String.toList_append] at hscan
    rw [Cursor.start, hscan]
    exact ⟨rfl, rfl⟩

end MailSearch
