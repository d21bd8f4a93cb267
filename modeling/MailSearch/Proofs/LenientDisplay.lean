import MailSearch.Proofs.Leniency

/-!
# The display of lenient trees

Where unknown values are searched for, a tree may hold a word that no text can hold: `is:"a b"` is
read as the word `is:a b`, and the quotes are lost. Displayed and parsed again it is two words.
`parse_lenient_display_iff` says which trees survive: exactly those where the part of such a word
after its colon could have been written without quotes (`Query.isRestorable`).

One direction is the argument of `parse_display`, for a larger class of leaves: `Displays` collects
what it needs to know about the tokens of a display. For the other direction quotes are counted. A
tree has no more quoted words than the tokens that it is derived from, and fewer if a word has lost
its quotes (`Grammar.Derives.quotes_le`), while its display has exactly as many (`Displays.quotes`).
-/

namespace MailSearch

open Grammar

/-! ## Trees that survive -/

/-- What follows the first colon of a bareword can be written without quotes. -/
def Token.isRestorable (w : Token) : Bool :=
  w.quoted || match w.text.toList.dropWhile (· != ':') with
    | [] => true
    | _ :: value => !value.isEmpty && value.all isWordChar

/-- Every search word of the tree is one that its display is read as. -/
def Query.isRestorable : Query → Bool
  | and l r | or l r | butNot l r => l.isRestorable && r.isRestorable
  | text .anywhere w => w.isRestorable
  | text .. | flag .. | attachment | date .. | fullText .. => true

/-- The number of words of a tree that stand between quotes. -/
def Query.quotes : Query → Nat
  | and l r | or l r | butNot l r => l.quotes + r.quotes
  | text _ w | date w _ => w.quoted.toNat
  | flag .. | attachment | fullText .. => 0

/-- A word without a colon is left alone. -/
theorem Query.isRestorable_of_not_hasColonWord {q : Query} (h : q.hasColonWord = false) :
    q.isRestorable := by
  induction q with
  | and l r ihl ihr | or l r ihl ihr | butNot l r ihl ihr =>
    rw [hasColonWord, Bool.or_eq_false_iff] at h
    rw [isRestorable, ihl h.1, ihr h.2]
    rfl
  | text f w =>
    cases f with
    | anywhere =>
      cases hquoted : w.quoted with
      | true => simp [isRestorable, Token.isRestorable, hquoted]
      | false =>
        have hcolon : ∀ c ∈ w.text.toList, (c != ':') = true := by
          intro c hc
          rw [bne_iff_ne]
          rintro rfl
          simp [hasColonWord, hquoted, hc] at h
        have hnone : (w.text.toList ++ []).dropWhile (· != ':') = [] :=
          dropWhile_append_stop hcolon fun _ hc => by cases hc
        rw [List.append_nil] at hnone
        simp [isRestorable, Token.isRestorable, hnone]
    | sender | recipient | subject | category | verbatim => rfl
  | flag | attachment | date | fullText => rfl

/-- A word that stands for a clause is restorable if its value is. -/
theorem Token.isRestorable_clause {t : Token} (v : Token) (hcolon : ':' ∉ t.display.toList) :
    (Token.bare (t.display ++ ":" ++ v.text)).isRestorable ↔
      v.text.toList ≠ [] ∧ ∀ c ∈ v.text.toList, isWordChar c := by
  have hstop : (t.display.toList ++ ':' :: v.text.toList).dropWhile (· != ':') =
      ':' :: v.text.toList := by
    refine dropWhile_append_stop (fun c hc => ?_) (fun c hc => by cases hc; rfl)
    rw [bne_iff_ne]
    rintro rfl
    exact hcolon hc
  simp [isRestorable, bare, hstop]

/-- A word with a fixed list of values stands without quotes and holds no colon. -/
theorem Token.Written.fixedWord {w : String} {k : Qualifier} {t : Token} (h : t.Written)
    (hw : (w, k) ∈ fixedWords) (ht : t.isKeyword w) :
    t.quoted = false ∧ ':' ∉ t.display.toList := by
  have hquoted : t.quoted = false := by
    rw [Token.isKeyword, Bool.and_eq_true, Bool.not_eq_true'] at ht
    exact ht.1
  have hcolon := h.colon_not_mem hquoted (not_special (fixedWords_ordinary _ hw) ht).1
  rw [Token.display, hquoted]
  exact ⟨rfl, hcolon⟩

/-- A text of word characters can do without its quotes. -/
theorem Token.Written.bare_text {v : Token} (h : v.Written)
    (hword : v.text.toList ≠ [] ∧ ∀ c ∈ v.text.toList, isWordChar c) :
    (Token.bare v.text).Written ∧ (Token.bare v.text).isDelimiter = false := by
  have hnot : ∀ c, isWordChar c → isDelimiterChar c = false := by
    intro c hc
    rw [isWordChar, Bool.and_eq_true, Bool.not_eq_true', Bool.not_eq_true'] at hc
    exact hc.2
  cases h with
  | @quote cs hquote =>
    rw [Token.quote, String.toList_ofList] at hword
    cases cs with
    | nil => exact absurd rfl hword.1
    | cons c cs =>
      have hc := hword.2 c (.head _)
      refine ⟨.word ?_ hc fun d hd => hword.2 d (.tail _ hd), isDelimiter_word (hnot c hc)⟩
      rintro rfl
      exact hquote (.head _)
  | @delimiter c hc =>
    rw [bare, String.toList_ofList] at hword
    rw [hnot c (hword.2 c (.head _))] at hc
    cases hc
  | @word c cs hq hc hcs => exact ⟨.word hq hc hcs, isDelimiter_word (hnot c hc)⟩

/-! ## Texts without quotes -/

/-- Where there is no quote, no quoted token is found. -/
theorem Scans.unquoted (cs : List Char) (h : '"' ∉ cs) :
    ∃ ts, Scans Boundary cs ts ∧ ts.countP Token.quoted = 0 := by
  induction hlen : cs.length using Nat.strongRecOn generalizing cs with
  | ind m ih =>
    subst hlen
    cases cs with
    | nil => exact ⟨[], (spacing (List.forall_mem_nil _)).weaken fun _ _ => trivial, rfl⟩
    | cons c cs =>
      rw [List.mem_cons, not_or] at h
      by_cases hdelim : isDelimiterChar c
      · obtain ⟨ts, hts, hcount⟩ := ih cs.length (Nat.lt_succ_self _) cs h.2 rfl
        refine ⟨.bare (String.ofList [c]) :: ts,
          (delimiter hdelim).append hts fun _ _ => trivial, ?_⟩
        rwa [List.countP_cons_of_neg (by simp [Token.bare])]
      by_cases hspace : isSpacing c
      · obtain ⟨ts, hts, hcount⟩ := ih cs.length (Nat.lt_succ_self _) cs h.2 rfl
        have hblank : Scans (fun _ => True) [c] [] := spacing (by simpa using hspace)
        exact ⟨ts, hblank.append hts fun _ _ => trivial, hcount⟩
      · -- A bareword is read as far as it goes, and what is left begins with none.
        have hlt : (cs.dropWhile isWordChar).length < (c :: cs).length :=
          Nat.lt_succ_of_le (List.dropWhile_sublist _).length_le
        have hnone : '"' ∉ cs.dropWhile isWordChar :=
          fun hmem => h.2 ((List.dropWhile_sublist _).subset hmem)
        obtain ⟨ts, hts, hcount⟩ := ih _ hlt _ hnone rfl
        have hword : (Token.bare (String.ofList (c :: cs.takeWhile isWordChar))).Written :=
          .word (Ne.symm h.1) (by simp [isWordChar, hdelim, hspace])
            fun d hd => List.all_eq_true.1 List.all_takeWhile d hd
        have hall := (written hword).append hts fun _ hrest =>
          Boundary.append (head_dropWhile cs) hrest
        rw [Token.toList_display_bare, List.cons_append, List.takeWhile_append_dropWhile] at hall
        refine ⟨_, hall, ?_⟩
        rwa [List.singleton_append, List.countP_cons_of_neg (by simp [Token.bare])]

/-! ## The tokens of a display -/

/-- What there is to know about the tokens of the display of a tree: how many are quoted and, if
the tree is restorable, that it is derived from them and how deep they nest. -/
structure Displays (u : UnknownValue) (q : Query) (ts : List Token) : Prop where
  scans : Scans Boundary q.display.toList ts
  quotes : ts.countP Token.quoted = q.quotes
  derives : q.isRestorable → Derives (TermUnder u) False .simple ts q ∧ mostOpen 0 ts = q.height

namespace Displays

variable {u : UnknownValue} {ts ls rs : List Token} {q l r : Query}

/-- A leaf nests nothing. -/
theorem leaf (hscans : Scans Boundary q.display.toList ts)
    (hquotes : ts.countP Token.quoted = q.quotes) (hheight : q.height = 0)
    (hterm : q.isRestorable → TermUnder u ts q) : Displays u q ts where
  scans := hscans
  quotes := hquotes
  derives hq := by
    have hflat := mostOpen_flat ((TermUnder.shape u).flat (hterm hq)) 0 []
    rw [List.append_nil] at hflat
    exact ⟨.term (hterm hq), hflat.trans hheight.symm⟩

/-- A term that is known in any case. -/
theorem known (h : q.Searchable) (hheight : q.height = 0) : Displays u q q.tokens := by
  refine leaf (Query.scans_display h) ?_ hheight fun _ => .known (Query.term_tokens h hheight)
  cases q with
  | and | or | butNot => cases hheight
  | text f w =>
    cases f with
    | verbatim => exact h.elim
    | sender | recipient | subject | category | anywhere =>
      cases hquoted : w.quoted <;>
        simp [Query.tokens, Query.quotes, qualified, Token.bare, hquoted]
  | date p d =>
    cases hquoted : p.quoted <;> simp [Query.tokens, Query.quotes, qualified, Token.bare, hquoted]
  | flag | attachment => rfl
  | fullText => exact h.elim

/-- A clause with an unknown value. Its display is the clause without the quotes around the value,
so it is read as the same clause if the value does not need them. -/
theorem unknown {w : String} {k : Qualifier} {t v : Token} (hu : u = .literal)
    (hw : (w, k) ∈ fixedWords) (ht : t.isKeyword w) (hv : v.isDelimiter = false)
    (hnone : ∀ name q, (w, name, q) ∈ values → anyValue v name = false)
    (htw : t.Written) (hvw : v.Written) :
    ∃ ts, Displays u (.text .anywhere (.bare (t.display ++ ":" ++ v.text))) ts := by
  obtain ⟨hquoted, hcolon⟩ := htw.fixedWord hw ht
  have hdisplay : (Query.text .anywhere (.bare (t.display ++ ":" ++ v.text))).display.toList =
      t.display.toList ++ ([':'] ++ v.text.toList) := by
    simp [Query.display, Field.qualifier]
  by_cases hword : v.text.toList ≠ [] ∧ ∀ c ∈ v.text.toList, isWordChar c
  · obtain ⟨hwritten, hdelim⟩ := hvw.bare_text hword
    refine ⟨[t, .bare ":", .bare v.text], leaf ?_ ?_ rfl fun _ => ?_⟩
    · rw [hdisplay]
      exact .colon htw (.written hwritten)
    · simp [Query.quotes, Token.bare, hquoted]
    · exact .unknown hu hw ht rfl hdelim hnone
  · -- The value needs its quotes, and what is displayed is read as something else.
    have hnoquote : '"' ∉ v.text.toList := by
      cases hvw with
      | quote hcs => rwa [Token.quote, String.toList_ofList]
      | delimiter hc => exact absurd ((Token.Written.delimiter hc).wordChars rfl hv) hword
      | word hq hc hcs => exact absurd ((Token.Written.word hq hc hcs).wordChars rfl hv) hword
    obtain ⟨us, hus, hcount⟩ := Scans.unquoted _ hnoquote
    refine ⟨t :: .bare ":" :: us, leaf ?_ ?_ rfl fun hq => ?_⟩
    · rw [hdisplay]
      exact .colon htw hus
    · simp [Query.quotes, Token.bare, hquoted, hcount]
    · exact absurd ((Token.isRestorable_clause v hcolon).1 hq) hword

/-- Two trees that are joined. -/
theorem join {w : String} (hl : Displays u l ls) (hr : Displays u r rs)
    (hw : IsWord w ∧ Text.sameWord w "(" = false ∧ Text.sameWord w ")" = false)
    (hdisplay : q.display.toList = ['('] ++ (l.display.toList ++ ([' '] ++ (w.toList ++ ([' '] ++
      (r.display.toList ++ [')']))))))
    (hquotes : q.quotes = l.quotes + r.quotes) (hheight : q.height = max l.height r.height + 1)
    (hderives : q.isRestorable → (l.isRestorable ∧ r.isRestorable) ∧
      (Derives (TermUnder u) False .simple ls l → Derives (TermUnder u) False .simple rs r →
        Derives (TermUnder u) False .simple (joined w ls rs) q)) :
    Displays u q (joined w ls rs) where
  scans := hdisplay ▸ hl.scans.joined hr.scans hw.1
  quotes := by simp [joined, hl.quotes, hr.quotes, hquotes, Token.bare]
  derives hq := by
    obtain ⟨⟨hlq, hrq⟩, hjoin⟩ := hderives hq
    obtain ⟨hls, hlopen⟩ := hl.derives hlq
    obtain ⟨hrs, hropen⟩ := hr.derives hrq
    rw [hheight, ← hlopen, ← hropen]
    exact ⟨hjoin hls hrs, mostOpen_joined (TermUnder.shape u) hls hrs hw.2⟩

/-- Two queries that are displayed, with `AND` between them. -/
theorem and (hl : Displays u l ls) (hr : Displays u r rs) :
    Displays u (.and l r) (joined "AND" ls rs) := by
  refine hl.join hr ⟨by decide, rfl, rfl⟩ (by simp [Query.display]) rfl rfl fun hq => ?_
  rw [Query.isRestorable, Bool.and_eq_true] at hq
  exact ⟨hq, Derives.joined_and⟩

/-- Two queries that are displayed, with `OR` between them. -/
theorem or (hl : Displays u l ls) (hr : Displays u r rs) :
    Displays u (.or l r) (joined "OR" ls rs) := by
  refine hl.join hr ⟨by decide, rfl, rfl⟩ (by simp [Query.display]) rfl rfl fun hq => ?_
  rw [Query.isRestorable, Bool.and_eq_true] at hq
  exact ⟨hq, Derives.joined_or⟩

/-- Two queries that are displayed, with `NOT` between them. -/
theorem butNot (hl : Displays u l ls) (hr : Displays u r rs) :
    Displays u (.butNot l r) (joined "NOT" ls rs) := by
  refine hl.join hr ⟨by decide, rfl, rfl⟩ (by simp [Query.display]) rfl rfl fun hq => ?_
  rw [Query.isRestorable, Bool.and_eq_true] at hq
  exact ⟨hq, Derives.joined_not⟩

end Displays

/-- **Every tree of a text has tokens that it is displayed as.** -/
theorem Grammar.Derives.displays {u : UnknownValue} {several : Prop} {rule : Rule}
    {ts : List Token} {q : Query} (h : Derives (TermUnder u) several rule ts q)
    (hw : ∀ t ∈ ts, t.Written) : ∃ us, Displays u q us := by
  induction h with
  | one _ ih | operand _ ih | alternative _ ih => exact ih hw
  | group _ _ _ ih => exact ih fun t ht => hw t (by simp [ht])
  | more _ _ _ ihq ihr | and _ _ _ ihq ihr =>
    obtain ⟨ls, hl⟩ := ihq fun t ht => hw t (by simp [ht])
    obtain ⟨rs, hr⟩ := ihr fun t ht => hw t (by simp [ht])
    exact ⟨_, hl.and hr⟩
  | or _ _ _ ihq ihr =>
    obtain ⟨ls, hl⟩ := ihq fun t ht => hw t (by simp [ht])
    obtain ⟨rs, hr⟩ := ihr fun t ht => hw t (by simp [ht])
    exact ⟨_, hl.or hr⟩
  | butNot _ _ _ _ ihq ihr =>
    obtain ⟨ls, hl⟩ := ihq fun t ht => hw t (by simp [ht])
    obtain ⟨rs, hr⟩ := ihr fun t ht => hw t (by simp [ht])
    exact ⟨_, hl.butNot hr⟩
  | @term ts q h =>
    cases h with
    | known h =>
      have hheight := q.height_lt_leafCount
      rw [(Term.shape id).leaf h, Nat.lt_one_iff] at hheight
      exact ⟨_, .known (h.searchable hw) hheight⟩
    | unknown hu hfixed ht _ hv hnone =>
      exact Displays.unknown hu hfixed ht hv hnone (hw _ (by simp)) (hw _ (by simp))

/-! ## Counting quotes -/

/-- A term has no more quotes than its tokens, and a word that is not restorable has lost some. -/
theorem Grammar.TermUnder.quotes_le {u : UnknownValue} {ts : List Token} {q : Query}
    (h : TermUnder u ts q) (hw : ∀ t ∈ ts, t.Written) :
    q.quotes + (!q.isRestorable).toNat ≤ ts.countP Token.quoted := by
  cases h with
  | known h =>
    rw [Query.isRestorable_of_not_hasColonWord (h.searchable hw).hasColonWord]
    cases h with
    | @word t => cases hquoted : t.quoted <;> simp [Query.quotes, hquoted]
    | @field _ _ _ _ v => cases hquoted : v.quoted <;> simp [Query.quotes, hquoted]
    | @date _ _ _ _ v => cases hquoted : v.quoted <;> simp [Query.quotes, hquoted]
    | value hmem =>
      simp only [values, List.mem_cons, Prod.mk.injEq, List.not_mem_nil, or_false] at hmem
      rcases hmem with ⟨-, -, rfl⟩ | ⟨-, -, rfl⟩ | ⟨-, -, rfl⟩ | ⟨-, -, rfl⟩ | ⟨-, -, rfl⟩ |
        ⟨-, -, rfl⟩ <;> exact Nat.zero_le _
  | @unknown w k t c v _ hfixed ht _ hv _ =>
    obtain ⟨-, hcolon⟩ := (hw t (by simp)).fixedWord hfixed ht
    cases hquoted : v.quoted with
    | true =>
      refine Nat.le_trans (Nat.add_le_add_left (Bool.toNat_le _) _) ?_
      simp [Query.quotes, Token.bare, hquoted]
    | false =>
      have hword := (hw v (by simp)).wordChars hquoted hv
      rw [Query.isRestorable, (Token.isRestorable_clause v hcolon).2 hword]
      exact Nat.zero_le _

/-- **A tree has no more quotes than the tokens that it is derived from**, and fewer if it is not
restorable. -/
theorem Grammar.Derives.quotes_le {u : UnknownValue} {several : Prop} {rule : Rule}
    {ts : List Token} {q : Query} (h : Derives (TermUnder u) several rule ts q)
    (hw : ∀ t ∈ ts, t.Written) :
    q.quotes + (!q.isRestorable).toNat ≤ ts.countP Token.quoted := by
  have hsum : ∀ a b : Bool, (!(a && b)).toNat ≤ (!a).toNat + (!b).toNat := by decide
  induction h with
  | one _ ih | operand _ ih | alternative _ ih => exact ih hw
  | @group ta ts tb q _ _ _ ih =>
    have hinner := ih fun t ht => hw t (by simp [ht])
    simp only [List.countP_append, List.countP_cons]
    omega
  | more _ _ _ ihq ihr | and _ _ _ ihq ihr | butNot _ _ _ _ ihq ihr | or _ _ _ ihq ihr =>
    have hleft := ihq fun t ht => hw t (by simp [ht])
    have hright := ihr fun t ht => hw t (by simp [ht])
    refine Nat.le_trans (Nat.add_le_add_left (hsum _ _) _) ?_
    simp only [Query.quotes, List.countP_append, List.countP_cons]
    omega
  | term h => exact h.quotes_le hw

/-! ## The round trip -/

/-- **Which lenient trees the display keeps.** A tree that a text is parsed to, and that is no
higher than parentheses may nest, is displayed as a text that is parsed to the same tree exactly if
what follows the first colon of each bareword could have been written without quotes. -/
theorem parse_lenient_display_iff {text : String} {o : ParseOptions} {q : Query}
    (h : Query.parse text o = .ok q) (hheight : q.height ≤ o.maxDepth) :
    Query.parse q.display o = .ok q ↔ q.isRestorable := by
  obtain ⟨⟨-, hder⟩, -, hterms⟩ := Scan.parse_eq_ok.1 h
  obtain ⟨us, hus⟩ := hder.displays (tokensOf_written text)
  obtain ⟨ls, hls, hscan⟩ := hus.scans.start fun _ hc => nomatch hc
  have htokens : tokensOf q.display = us := by rw [tokensOf, hscan, ← hls]
  constructor
  · intro hparse
    have hquotes := (Scan.parse_eq_ok.1 hparse).1.2.quotes_le (tokensOf_written q.display)
    rw [← tokensOf, htokens, hus.quotes] at hquotes
    cases hq : q.isRestorable with
    | true => rfl
    | false =>
      rw [hq] at hquotes
      exact absurd hquotes (Nat.not_succ_le_self _)
  · intro hq
    obtain ⟨hsimple, hopen⟩ := hus.derives hq
    refine Scan.parse_eq_ok.2 ⟨⟨by rw [hscan]; rfl, ?_⟩, ?_, hterms⟩
    · rw [← tokensOf, htokens]
      exact .one (.operand (.alternative hsimple))
    · rw [← tokensOf, htokens, hopen]
      exact hheight

/-- Quotes that the value can do without are lost, and the tree is kept all the same; a value that
is empty does not survive. -/
theorem parse_lenient_display_iff_later :
    let q := Query.or (.text .anywhere (.bare "IS:later")) (.text .subject (.quote "a:b"))
    let r := Query.butNot (.text .anywhere (.bare "a")) (.text .anywhere (.bare "has:"))
    (Query.parse "IS:\"later\" or subject:\"a:b\"" { unknownValue := .literal } = .ok q ∧
      q.height ≤ 64 ∧ Query.parse q.display { unknownValue := .literal } = .ok q) ∧
    (Query.parse "a not has:\"\"" { unknownValue := .literal } = .ok r ∧
      r.height ≤ 64 ∧ Query.parse r.display { unknownValue := .literal } ≠ .ok r) := by
  intro q r
  have hq : Query.parse "IS:\"later\" or subject:\"a:b\"" { unknownValue := .literal } = .ok q := by
    decide +kernel
  have hr : Query.parse "a not has:\"\"" { unknownValue := .literal } = .ok r := by decide +kernel
  refine ⟨⟨hq, by decide, (parse_lenient_display_iff hq (by decide)).2 (by decide +kernel)⟩,
    hr, by decide, fun hparse => ?_⟩
  have hrestorable := (parse_lenient_display_iff hr (by decide)).1 hparse
  revert hrestorable
  decide +kernel

/-- A blank in an unknown value divides the word that stands for it: the quotes are dropped from the
tree, and its display has two words. -/
theorem quoted_unknown_value_is_divided :
    let q := Query.text .anywhere (.bare "is:a b")
    Query.parse "is:\"a b\"" { unknownValue := .literal } = .ok q ∧ q.height = 0 ∧
    Query.parse q.display { unknownValue := .literal } =
      .ok (.and (.text .anywhere (.bare "is:a")) (.text .anywhere (.bare "b"))) := by
  decide +kernel

end MailSearch
