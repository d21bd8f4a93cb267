import MailSearch.Proofs.Limits

/-!
# Texts cut before a token

Whatever is said about a place in a text is said about the lexemes before it and after it.
`Cursor.cut`: where the lexemes of a text are divided in two, the text is divided with them, before
the first lexeme of the second part or, if there is none, at the end. The first part of the text is
scanned to the first part of the lexemes also by itself and before something else, as long as no
bareword goes on there.

Two consequences are used from here on. A text that is parsed is scanned to its tokens wherever it
stands (`Query.scans_of_parse`), and to parse a text that is put together from pieces it is enough
to derive the tokens of the pieces (`Query.parse_of_scans`).
-/

namespace MailSearch

/-- The place at which `rest` begins: that of its first lexeme or, if it is empty, the end of a text
that ends properly. -/
inductive Ending.Marks (e : Ending) : List Lexeme → Nat → Prop where
  | lexeme (l : Lexeme) (rest : List Lexeme) : Marks e (l :: rest) l.position
  | ending {offset : Nat} (h : e = .proper offset) : Marks e [] offset

/-- The text after a cursor, cut where the lexemes `rest` begin. -/
structure Cursor.Cut (c : Cursor) (used rest : List Lexeme) (place : Nat) (front back : List Char) :
    Prop where
  text : c.rest = front ++ back
  place : place = c.offset + Text.byteLength front
  scans : Scans Boundary front (used.map Lexeme.token)
  next : ∀ l ∈ rest.head?, ∃ after, back = l.token.display.toList ++ after
  last : rest = [] → back = []

/-! ## Cutting -/

/-- A token that ends before a text ends before whatever replaces the end of that text. -/
theorem Token.Ends.replace {t : Token} {front back rest : List Char} (h : t.Ends (front ++ back))
    (hrest : Boundary rest) : t.Ends (front ++ rest) := by
  rw [Token.ends_iff] at h ⊢
  intro hword
  cases front with
  | nil => exact hrest
  | cons c front => exact h hword

namespace Cursor

/-- Where nothing more is found, the text ends behind the blanks. -/
theorem finished_here {c here : Cursor} (h : c.read = .finished here) :
    here.offset = c.offset + Text.byteLength c.rest := by
  have hread : (Cursor.mk c.offset (c.rest ++ [])).read =
      .finished ⟨c.offset + Text.byteLength c.rest, []⟩ :=
    read_spacing (blanks_of_finished h)
  rw [List.append_nil, h] at hread
  rw [Reading.finished.inj hread]

/-- The first lexeme found is a place to cut at. -/
theorem cut_found {c after : Cursor} {blanks : List Char} {l : Lexeme} {rest : List Lexeme}
    (h : c.Finds blanks l after) :
    c.Cut [] (l :: rest) l.position blanks (l.token.display.toList ++ after.rest) where
  text := h.text
  place := h.position
  scans := (Scans.spacing h.spacing).weaken fun _ _ => trivial
  next := by
    intro l' hl'
    cases hl'
    exact ⟨_, rfl⟩
  last := nofun

/-- So is the end of the text. -/
theorem cut_finished {c here : Cursor} (h : c.read = .finished here) :
    c.Cut [] [] here.offset c.rest [] where
  text := (List.append_nil _).symm
  place := finished_here h
  scans := (Scans.spacing (blanks_of_finished h)).weaken fun _ _ => trivial
  next := nofun
  last := fun _ => rfl

/-- A place to cut at behind the first lexeme. -/
theorem Cut.cons {c after : Cursor} {blanks front back : List Char} {l : Lexeme}
    {used rest : List Lexeme} {place : Nat} (hfinds : c.Finds blanks l after)
    (h : after.Cut used rest place front back) :
    c.Cut (l :: used) rest place (blanks ++ (l.token.display.toList ++ front)) back where
  text := by
    rw [hfinds.text, h.text]
    simp
  place := by
    rw [h.place, hfinds.offset, hfinds.position]
    simp only [Text.byteLength_append]
    omega
  scans := by
    have hends : ∀ cs, Boundary cs → l.token.Ends (front ++ cs) := by
      intro cs hcs
      have hends := hfinds.ends
      rw [h.text] at hends
      exact hends.replace hcs
    have htoken := (Scans.token hfinds.written).append h.scans hends
    exact (Scans.spacing hfinds.spacing).append htoken fun _ _ => trivial
  next := h.next
  last := h.last

/-- **A text can be cut before each of its lexemes**, and at its end if it ends properly. -/
theorem cut {c : Cursor} {used rest : List Lexeme} {place : Nat}
    (hscan : c.scan.lexemes = used ++ rest) (hmarks : c.scan.ending.Marks rest place) :
    ∃ front back, c.Cut used rest place front back := by
  induction c using Cursor.scan.induct generalizing used with
  | case1 c l after hread ih =>
    obtain ⟨blanks, hfinds⟩ := read_finds hread
    rw [scan_found hread] at hscan hmarks
    cases used with
    | nil =>
      rw [List.nil_append] at hscan
      subst hscan
      cases hmarks with
      | lexeme => exact ⟨_, _, cut_found hfinds⟩
    | cons l' used =>
      obtain ⟨rfl, hrest⟩ := List.cons.inj hscan
      obtain ⟨front, back, hcut⟩ := ih hrest hmarks
      exact ⟨_, back, hcut.cons hfinds⟩
  | case2 c here hread =>
    rw [scan_finished hread] at hscan hmarks
    obtain ⟨rfl, rfl⟩ := List.append_eq_nil_iff.1 hscan.symm
    cases hmarks with
    | ending h =>
      cases h
      exact ⟨_, _, cut_finished hread⟩
  | case3 c here hread =>
    rw [scan_openQuote hread] at hscan hmarks
    obtain ⟨rfl, rfl⟩ := List.append_eq_nil_iff.1 hscan.symm
    cases hmarks with
    | ending h => cases h

end Cursor

/-! ## Pieces of texts -/

open Grammar

/-- **A text that is parsed is scanned to its tokens wherever it stands**, if no bareword goes on
after it. -/
theorem Query.scans_of_parse {text : String} {o : ParseOptions} {q : Query}
    (h : Query.parse text o = .ok q) : Scans Boundary text.toList (tokensOf text) := by
  obtain ⟨⟨hcheck, -⟩, -⟩ := Scan.parse_eq_ok.1 h
  cases hending : (Cursor.start text).scan.ending with
  | openQuote =>
    rw [hending] at hcheck
    cases hcheck
  | proper offset =>
    obtain ⟨front, back, hcut⟩ := Cursor.cut (List.append_nil _).symm (.ending hending)
    have htext : text.toList = front ++ back := hcut.text
    rw [htext, hcut.last rfl, List.append_nil]
    exact hcut.scans

/-- **A text that is scanned to derived tokens is parsed**, within the limits. -/
theorem Query.parse_of_scans {text : String} {o : ParseOptions} {ts : List Token} {q : Query}
    (hscans : Scans Boundary text.toList ts)
    (hder : Derives (TermUnder o.unknownValue) False .query ts q)
    (hdepth : mostOpen 0 ts ≤ o.maxDepth) (hterms : q.leafCount ≤ o.maxTerms) :
    Query.parse text o = .ok q := by
  obtain ⟨ls, rfl, hscan⟩ := hscans.start nofun
  refine Scan.parse_eq_ok.2 ⟨⟨by rw [hscan]; rfl, ?_⟩, ?_, hterms⟩
  · rw [hscan]
    exact hder
  · rw [hscan]
    exact hdepth

/-- Tokens that are written one after the other, with a blank before each. -/
def Grammar.spaced (ts : List Token) : List Char :=
  ts.flatMap fun t => ' ' :: t.display.toList

/-- No bareword goes on into them. -/
theorem Boundary.spaced (ts : List Token) : Boundary (spaced ts) := by
  cases ts with
  | nil => exact nofun
  | cons t ts =>
    intro c hc
    cases hc
    rfl

/-- They are scanned to themselves. -/
theorem Scans.spaced {ts : List Token} (h : ∀ t ∈ ts, t.Written) :
    Scans Boundary (spaced ts) ts := by
  induction ts with
  | nil => exact (Scans.spacing (List.forall_mem_nil _)).weaken fun _ _ => trivial
  | cons t ts ih =>
    have hblank : Scans (fun _ => True) [' '] [] := Scans.spacing (by simp [isSpacing])
    have hrest := ih fun u hu => h u (.tail _ hu)
    have htoken := (Scans.written (h t (.head _))).append hrest fun _ hcs =>
      (Boundary.spaced ts).append hcs
    exact hblank.append htoken fun _ _ => trivial

end MailSearch
