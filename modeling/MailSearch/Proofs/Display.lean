import MailSearch.Proofs.Acceptance
import MailSearch.Proofs.Scanning

/-!
# Display is undone by the parser

`parse_display`: a tree that some text is parsed to is displayed as a text that is parsed to the
same tree, unless the tree is higher than parentheses may nest. The argument goes through the tokens
of the display (`Query.tokens`), which are written down for every tree:

* the tree comes from a text, so its words are tokens that a text can hold (`Query.Searchable`);
* the display is scanned to its tokens (`Query.scans_display`);
* the tokens are derived by the grammar, with the displayed tree (`Query.derives_tokens`), and nest
  as deep as the tree is high (`Query.mostOpen_tokens`).

Chains have no parentheses of their own and get one pair for each join, so the display may nest
deeper than the text did. It never has more terms.
-/

namespace MailSearch

open Grammar

/-! ## The tokens of a display -/

/-- Two lists of tokens between parentheses, with a word between them. -/
def Grammar.joined (w : String) (ls rs : List Token) : List Token :=
  .bare "(" :: (ls ++ .bare w :: rs) ++ [.bare ")"]

/-- A value after the word that asks for it. -/
def Grammar.qualified (w : String) (v : Token) : List Token :=
  [.bare w, .bare ":", v]

/-- The value of `is:` that asks for a marker, or for its absence. -/
def Flag.value : Flag → Bool → String
  | unread, true => "unread"
  | unread, false => "read"
  | starred, true => "starred"
  | starred, false => "unstarred"

namespace Query

/-- The number of joins on the longest way from the root of a tree to a leaf. -/
def height : Query → Nat
  | and l r | or l r | butNot l r => max l.height r.height + 1
  | text .. | flag .. | attachment | date .. | fullText .. => 0

/-- The tokens of the display of a tree. A leaf that has no search syntax has none. -/
def tokens : Query → List Token
  | and l r => joined "AND" l.tokens r.tokens
  | or l r => joined "OR" l.tokens r.tokens
  | butNot l r => joined "NOT" l.tokens r.tokens
  | text .sender w => qualified "from" w
  | text .recipient w => qualified "to" w
  | text .subject w => qualified "subject" w
  | text .category w => qualified "in" w
  | text .anywhere w => [w]
  | flag f s => qualified "is" (.bare (f.value s))
  | attachment => qualified "has" (.bare "attachment")
  | date p d => qualified d.word p
  | text .verbatim _ | fullText _ => []

/-- The trees that a search can be: the words are tokens that a text can hold, and they are not read
as something else. -/
def Searchable : Query → Prop
  | and l r | or l r | butNot l r => l.Searchable ∧ r.Searchable
  | text .anywhere w => w.Written ∧ IsText w
  | text .sender w | text .recipient w | text .subject w | text .category w | date w _ =>
    w.Written ∧ w.isDelimiter = false
  | flag .. | attachment => True
  | text .verbatim _ | fullText _ => False

end Query

/-! ## Joins

How two simple queries are put together does not depend on what the terms are. -/

section
variable {term : List Token → Query → Prop} {several : Prop} {ls rs : List Token} {l r : Query}

/-- Two simple queries with `AND` between them, in parentheses, are a simple query. -/
theorem Grammar.Derives.joined_and (hl : Derives term several .simple ls l)
    (hr : Derives term several .simple rs r) :
    Derives term several .simple (joined "AND" ls rs) (.and l r) := by
  have hand := Derives.and (.alternative hl) (.inr ⟨.bare "AND", rfl, rfl⟩)
    (.operand (.alternative hr))
  rw [List.append_assoc] at hand
  exact .group rfl (.one hand) rfl

/-- So are two with `OR` between them. -/
theorem Grammar.Derives.joined_or (hl : Derives term several .simple ls l)
    (hr : Derives term several .simple rs r) :
    Derives term several .simple (joined "OR" ls rs) (.or l r) :=
  .group rfl (.one (.operand (.or hl rfl (.alternative hr)))) rfl

/-- And two with `NOT` between them. -/
theorem Grammar.Derives.joined_not (hl : Derives term several .simple ls l)
    (hr : Derives term several .simple rs r) :
    Derives term several .simple (joined "NOT" ls rs) (.butNot l r) := by
  have hnot := Derives.butNot (t := .bare "NOT") (.alternative hl) (.inl rfl) rfl
    (.operand (.alternative hr))
  rw [List.append_nil] at hnot
  exact .group rfl (.one hnot) rfl

/-- A join nests one deeper than its operands. -/
theorem Grammar.mostOpen_joined {w : String} (hterm : TermShape term)
    (hl : Derives term several .simple ls l) (hr : Derives term several .simple rs r)
    (hw : Text.sameWord w "(" = false ∧ Text.sameWord w ")" = false) :
    mostOpen 0 (joined w ls rs) = max (mostOpen 0 ls) (mostOpen 0 rs) + 1 := by
  have hopen : ∀ ts, mostOpen 0 (.bare "(" :: ts) = mostOpen 1 ts := fun _ => rfl
  have hclose : mostOpen 1 [.bare ")"] = 1 := rfl
  rw [joined, List.cons_append, hopen, List.append_assoc, hl.mostOpen_append hterm,
    List.cons_append, mostOpen_keyword (Token.isKeyword_bare w) hw, hr.mostOpen_append hterm,
    hclose]
  omega

end

/-! ## The trees of texts -/

/-- A term that a text can hold is a search. -/
theorem Grammar.Term.searchable {ts : List Token} {q : Query} (h : Term anyValue ts q)
    (hw : ∀ t ∈ ts, t.Written) : q.Searchable := by
  cases h with
  | @word t ht => exact ⟨hw t (by simp), ht⟩
  | @field _ f _ _ v hmem _ _ hv =>
    have hvalue : v.Written ∧ v.isDelimiter = false := ⟨hw v (by simp), hv⟩
    simp only [fields, List.mem_cons, Prod.mk.injEq, List.not_mem_nil, or_false] at hmem
    rcases hmem with ⟨-, rfl⟩ | ⟨-, rfl⟩ | ⟨-, rfl⟩ | ⟨-, rfl⟩ <;> exact hvalue
  | @date _ _ _ _ v _ _ _ hv => exact ⟨hw v (by simp), hv⟩
  | value hmem =>
    simp only [values, List.mem_cons, Prod.mk.injEq, List.not_mem_nil, or_false] at hmem
    rcases hmem with ⟨-, -, rfl⟩ | ⟨-, -, rfl⟩ | ⟨-, -, rfl⟩ | ⟨-, -, rfl⟩ | ⟨-, -, rfl⟩ |
      ⟨-, -, rfl⟩ <;> exact trivial

/-- What a text is parsed to is a search. -/
theorem Grammar.Derives.searchable {several : Prop} {rule : Rule} {ts : List Token} {q : Query}
    (h : Derives (Term anyValue) several rule ts q) (hw : ∀ t ∈ ts, t.Written) : q.Searchable := by
  induction h with
  | one _ ih | operand _ ih | alternative _ ih => exact ih hw
  | more _ _ _ ihq ihr | and _ _ _ ihq ihr | butNot _ _ _ _ ihq ihr | or _ _ _ ihq ihr =>
    exact ⟨ihq fun t ht => hw t (by simp [ht]), ihr fun t ht => hw t (by simp [ht])⟩
  | group _ _ _ ih => exact ih fun t ht => hw t (by simp [ht])
  | term h => exact h.searchable hw

namespace Query

/-- The display of a leaf is a term. -/
theorem term_tokens {q : Query} (h : q.Searchable) (hleaf : q.height = 0) :
    Term anyValue q.tokens q := by
  cases q with
  | and | or | butNot => cases hleaf
  | text f w =>
    cases f with
    | sender => exact .field (w := "from") (by decide) rfl rfl h.2
    | recipient => exact .field (w := "to") (by decide) rfl rfl h.2
    | subject => exact .field (w := "subject") (by decide) rfl rfl h.2
    | category => exact .field (w := "in") (by decide) rfl rfl h.2
    | anywhere => exact .word h.2
    | verbatim => exact h.elim
  | flag f s =>
    have hmem : ("is", f.value s, Query.flag f s) ∈ values := by cases f <;> cases s <;> decide
    have hspells : anyValue (.bare (f.value s)) (f.value s) := by cases f <;> cases s <;> rfl
    exact .value hmem rfl rfl hspells
  | attachment =>
    have hmem : ("has", "attachment", Query.attachment) ∈ values := by decide
    exact .value hmem rfl rfl rfl
  | date p d =>
    have hmem : (d.word, d) ∈ dates := by cases d <;> decide
    have hword : (Token.bare d.word).isKeyword d.word := by cases d <;> rfl
    exact .date hmem hword rfl h.2
  | fullText => exact h.elim

/-- **A display is one simple query.** Its derivation has the displayed tree. -/
theorem derives_tokens {several : Prop} {q : Query} (h : q.Searchable) :
    Derives (Term anyValue) several .simple q.tokens q := by
  induction q with
  | and l r ihl ihr => exact (ihl h.1).joined_and (ihr h.2)
  | or l r ihl ihr => exact (ihl h.1).joined_or (ihr h.2)
  | butNot l r ihl ihr => exact (ihl h.1).joined_not (ihr h.2)
  | text | flag | attachment | date | fullText => exact .term (term_tokens h rfl)

end Query

/-- The parentheses of a display nest as deep as the tree is high. -/
theorem Query.mostOpen_tokens {q : Query} (h : q.Searchable) : mostOpen 0 q.tokens = q.height := by
  induction q with
  | and l r ihl ihr | or l r ihl ihr | butNot l r ihl ihr =>
    have hl : Derives (Term anyValue) False .simple l.tokens l := derives_tokens h.1
    rw [tokens, mostOpen_joined (Term.shape id) hl (derives_tokens h.2) ⟨rfl, rfl⟩, ihl h.1,
      ihr h.2, height]
  | text | flag | attachment | date | fullText =>
    have hflat := mostOpen_flat ((Term.shape id).flat (term_tokens h rfl)) 0 []
    rwa [List.append_nil] at hflat

/-! ## The display is scanned to its tokens -/

@[simp]
theorem Token.display_bare (w : String) : (Token.bare w).display = w := rfl

/-- A text without blanks, delimiters and quotes. -/
def IsWord (w : String) : Prop :=
  w.toList ≠ [] ∧ ∀ c ∈ w.toList, isWordChar c ∧ c ≠ '"'

instance (w : String) : Decidable (IsWord w) :=
  decidable_of_iff (w.toList ≠ [] ∧ w.toList.all fun c => isWordChar c && c != '"')
    (by simp [IsWord])

/-- A word can be written. -/
theorem IsWord.written {w : String} (h : IsWord w) : (Token.bare w).Written := by
  obtain ⟨hne, hw⟩ := h
  rw [← String.ofList_toList (s := w)]
  cases hcs : w.toList with
  | nil => exact absurd hcs hne
  | cons c cs =>
    rw [hcs] at hw
    exact .word (hw c (.head _)).2 (hw c (.head _)).1 fun d hd => (hw d (.tail _ hd)).1

namespace Scans

variable {cs ds : List Char} {ts us : List Token}

/-- A delimiter, whatever follows. -/
theorem delimiter {c : Char} (hc : isDelimiterChar c) :
    Scans (fun _ => True) [c] [.bare (String.ofList [c])] := by
  have htoken := token (.delimiter hc)
  rw [Token.display_bare, String.toList_ofList] at htoken
  refine htoken.weaken fun rest _ => .inr (.inl ?_)
  simp only [isDelimiterChar, Bool.or_eq_true, beq_iff_eq] at hc
  rcases hc with (rfl | rfl) | rfl <;> rfl

/-- A token, where no bareword goes on. -/
theorem written {t : Token} (h : t.Written) : Scans Boundary t.display.toList [t] :=
  (token h).weaken fun _ hrest => .inr (.inr hrest)

/-- Two pieces between parentheses, with a word between them. -/
theorem joined {w : String} (h : Scans Boundary cs ts) (h' : Scans Boundary ds us)
    (hw : IsWord w) :
    Scans Boundary (['('] ++ (cs ++ ([' '] ++ (w.toList ++ ([' '] ++ (ds ++ [')']))))))
      (Grammar.joined w ts us) := by
  have hblank : Scans (fun _ => True) [' '] [] := spacing (by simp [isSpacing])
  have hclose : Scans Boundary [')'] [.bare ")"] := (delimiter rfl).weaken fun _ _ => trivial
  have hend := h'.append hclose fun _ _ c hc => by cases hc; rfl
  have hright := hblank.append hend fun _ _ => trivial
  have hword := (written hw.written).append hright fun _ _ c hc => by cases hc; rfl
  have hleft := h.append (hblank.append hword fun _ _ => trivial) fun _ _ c hc => by cases hc; rfl
  have hall := (delimiter (c := '(') rfl).append hleft fun _ _ => trivial
  simpa [Grammar.joined] using hall

/-- What follows a token and a colon. -/
theorem colon {t : Token} (ht : t.Written) (h : Scans Boundary cs ts) :
    Scans Boundary (t.display.toList ++ ([':'] ++ cs)) (t :: .bare ":" :: ts) :=
  (written ht).append ((delimiter (c := ':') rfl).append h fun _ _ => trivial)
    fun _ _ c hc => by cases hc; rfl

/-- A value after the word that asks for it. -/
theorem qualified {w : String} {v : Token} (hw : IsWord w) (hv : v.Written) :
    Scans Boundary (w.toList ++ ([':'] ++ v.display.toList)) (Grammar.qualified w v) :=
  colon hw.written (written hv)

end Scans

/-- **A display is scanned to its tokens**, where no bareword goes on after it. -/
theorem Query.scans_display {q : Query} (h : q.Searchable) :
    Scans Boundary q.display.toList q.tokens := by
  induction q with
  | and l r ihl ihr =>
    have hscan := (ihl h.1).joined (ihr h.2) (w := "AND") (by decide)
    simpa [display, tokens] using hscan
  | or l r ihl ihr =>
    have hscan := (ihl h.1).joined (ihr h.2) (w := "OR") (by decide)
    simpa [display, tokens] using hscan
  | butNot l r ihl ihr =>
    have hscan := (ihl h.1).joined (ihr h.2) (w := "NOT") (by decide)
    simpa [display, tokens] using hscan
  | text f w =>
    cases f with
    | sender =>
      have hscan := Scans.qualified (w := "from") (by decide) h.1
      simpa [display, tokens, Field.qualifier] using hscan
    | recipient =>
      have hscan := Scans.qualified (w := "to") (by decide) h.1
      simpa [display, tokens, Field.qualifier] using hscan
    | subject =>
      have hscan := Scans.qualified (w := "subject") (by decide) h.1
      simpa [display, tokens, Field.qualifier] using hscan
    | category =>
      have hscan := Scans.qualified (w := "in") (by decide) h.1
      simpa [display, tokens, Field.qualifier] using hscan
    | anywhere => simpa [display, tokens, Field.qualifier] using Scans.written h.1
    | verbatim => exact h.elim
  | flag f s =>
    have hvalue : IsWord (f.value s) := by cases f <;> cases s <;> decide
    have hscan := Scans.qualified (w := "is") (by decide) hvalue.written
    cases f <;> cases s <;> exact hscan
  | attachment =>
    have hvalue : IsWord "attachment" := by decide
    exact Scans.qualified (w := "has") (by decide) hvalue.written
  | date p d =>
    have hscan := Scans.qualified (w := d.word) (by cases d <;> decide) h.1
    simpa [display, tokens] using hscan
  | fullText => exact h.elim

/-! ## The round trip -/

/-- **Display is undone by the parser.** A tree that a text is parsed to is displayed as a text that
is parsed to the same tree, if the tree is no higher than parentheses may nest. If it is higher, the
display is refused for its depth. -/
theorem parse_display {text : String} {o : ParseOptions} {q : Query}
    (ho : o.unknownValue = .reject) (h : Query.parse text o = .ok q) :
    (q.height ≤ o.maxDepth → Query.parse q.display o = .ok q) ∧
    (o.maxDepth < q.height → ∃ position,
      Query.parse q.display o = .error (.parse position (.tooDeep o.maxDepth))) := by
  have ht := readsTerms_reject ho
  obtain ⟨hder, hterms⟩ := Scan.parse_sound ht h
  have hq : q.Searchable := hder.searchable fun t hmem => by
    obtain ⟨l, hl, rfl⟩ := List.mem_map.1 hmem
    exact Cursor.scan_written _ l hl
  obtain ⟨ls, hls, hscan⟩ := (Query.scans_display hq).start fun _ hc => nomatch hc
  have hder' : Derives (Term anyValue) False .query
      ((Cursor.start q.display).scan.lexemes.map Lexeme.token) q := by
    rw [hscan, hls]
    exact .one (.operand (.alternative (Query.derives_tokens hq)))
  have hdel : Delivers o _ _ q (Query.parse q.display o) :=
    Scan.parse_delivers ht (by rw [hscan]; rfl) hder'
  rw [hscan, hls, Query.mostOpen_tokens hq] at hdel
  generalize Query.parse q.display o = out at hdel
  cases hdel with
  | ok hd _ => exact ⟨fun _ => rfl, fun hlt => absurd hd (Nat.not_le.2 hlt)⟩
  | tooDeep position hd => exact ⟨fun hle => absurd hd (Nat.not_lt.2 hle), fun _ => ⟨position, rfl⟩⟩
  | tooManyTerms _ hn => exact absurd hn (Nat.not_lt.2 hterms)

/-- A chain of three has no parentheses, and its display has two pairs, one in the other. A keyword
after a colon and delimiters between quotes are searched for. -/
theorem parse_display_chain :
    let q := Query.and (.text .sender (.bare "NOT")) (.butNot (.text .anywhere (.quote "(or:"))
      (.date (.quote "last week") .after))
    Query.parse "from:NOT \"(or:\" NOT since:\"last week\"" {} = .ok q ∧
    Query.parse q.display {} = .ok q ∧
    Query.parse "from:NOT \"(or:\" NOT since:\"last week\"" { maxDepth := 1 } = .ok q ∧
    ∃ position,
      Query.parse q.display { maxDepth := 1 } = .error (.parse position (.tooDeep 1)) := by
  intro q
  have hwide : Query.parse "from:NOT \"(or:\" NOT since:\"last week\"" {} = .ok q := by
    decide +kernel
  have hnarrow : Query.parse "from:NOT \"(or:\" NOT since:\"last week\"" { maxDepth := 1 } =
      .ok q := by decide +kernel
  exact ⟨hwide, (parse_display rfl hwide).1 (by decide), hnarrow,
    (parse_display rfl hnarrow).2 (by decide)⟩

end MailSearch
