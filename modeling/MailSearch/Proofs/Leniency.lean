import MailSearch.Proofs.Limits

/-!
# Rejecting unknown values and searching for them

Options that search for a clause with an unknown value differ from those that reject it in nothing
else. Two runs of the parser, one strict and one lenient, go along together until the first unknown
value, where the strict one ends: `Agrees` says that of two results, `Agrees.bind` that it is kept
when two runs go on, and `read_agrees` that it holds of every rule.

`parse_lenient_iff`: what is parsed strictly is parsed leniently to the same tree, and what is
refused for another reason is refused for that reason. In the other direction the tree tells. No
bareword of a text holds a colon (`Token.Written.colon_not_mem`), and the word that stands for a
clause with an unknown value always holds one, so the two runs differ exactly on the trees with such
a word (`Query.hasColonWord`).
-/

namespace MailSearch

open Grammar MailSearch.Parser

/-! ## Two runs -/

/-- The text is refused because a qualifier does not know a value. -/
def Error.isUnknownValue : Error → Bool
  | .parse _ (.unknownValue ..) => true
  | _ => false

/-- The same options, with unknown values rejected. -/
def ParseOptions.strict (o : ParseOptions) : ParseOptions :=
  { o with unknownValue := .reject }

@[simp]
theorem ParseOptions.strict_maxDepth (o : ParseOptions) : o.strict.maxDepth = o.maxDepth := rfl

@[simp]
theorem ParseOptions.strict_maxTerms (o : ParseOptions) : o.strict.maxTerms = o.maxTerms := rfl

/-- The first result is the second, unless it is the refusal of an unknown value. -/
inductive Agrees {α : Type} : Except Error α → Except Error α → Prop where
  | same (x : Except Error α) : Agrees x x
  | unknown {err : Error} (h : err.isUnknownValue) (y : Except Error α) : Agrees (.error err) y

/-- Two runs that agree so far go on to agree if they do so from each result of the first. -/
theorem Agrees.bind {α β : Type} {x y : Except Error α} {f g : α → Except Error β}
    (h : Agrees x y) (hf : ∀ a, x = .ok a → Agrees (f a) (g a)) : Agrees (x >>= f) (y >>= g) := by
  cases h with
  | unknown herr => exact .unknown herr _
  | same x =>
    cases x with
    | error err => exact .same _
    | ok a => exact hf a rfl

/-- Results that agree still do after the same change to both. -/
theorem Agrees.map {α β : Type} {x y : Except Error α} (h : Agrees x y) (f : α → β) :
    Agrees (x.map f) (y.map f) := by
  cases h with
  | unknown herr => exact .unknown herr _
  | same => exact .same _

section
variable {o : ParseOptions} {e : Ending} {d n : Nat} {ts : List Lexeme}

/-! ## Terms -/

/-- The options are looked at only where a value is unknown. -/
theorem Qualifier.term_agrees (k : Qualifier) (name : Token) (v : Lexeme) :
    Agrees (k.term o.strict name v) (k.term o name v) := by
  cases k with
  | field | date => exact .same _
  | state | possession =>
    simp only [term]
    split
    · exact .same _
    · exact .unknown rfl _

/-- A clause is where the two parsers can differ: at a value that its qualifier does not know. -/
theorem clause_agrees (first : Token) :
    Agrees (clause o.strict e first ts) (clause o e first ts) := by
  rw [clause, clause]
  split
  · exact .same _
  next k _ =>
    refine (Agrees.same _).bind fun us _ => ?_
    refine (Agrees.same _).bind fun read _ => ?_
    exact (k.term_agrees first read.1).bind fun q _ => .same _

/-! ## The rules -/

/-- They agree on a group if they do on what it holds. -/
theorem readGroup_agrees {position : Nat}
    (ih : ∀ d n, Agrees (readQuery o.strict e d n ts) (readQuery o e d n ts)) :
    Agrees (readGroup o.strict e d n ts position) (readGroup o e d n ts position) := by
  rw [readGroup_eq, readGroup_eq, o.strict_maxDepth]
  split
  · exact .same _
  · exact (ih (d + 1) n).bind fun found _ => .same _

/-- They agree on a simple query if they do on every shorter query. -/
theorem readSimple_agrees
    (ih : ∀ us : List Lexeme, us.length < ts.length → ∀ d n,
      Agrees (readQuery o.strict e d n us) (readQuery o e d n us)) :
    Agrees (readSimple o.strict e d n ts) (readSimple o e d n ts) := by
  cases ts with
  | nil =>
    rw [readSimple_nil, readSimple_nil]
    exact .same _
  | cons l ts =>
    rw [readSimple_cons, readSimple_cons, o.strict_maxTerms]
    split
    · exact readGroup_agrees (ih ts (Nat.lt_succ_self _))
    · split
      · exact .same _
      · split
        · exact .same _
        · split
          · exact .same _
          · exact (clause_agrees l.token).map _

/-- They agree on a disjunction if they do on its first part and on all that is shorter. -/
theorem readDisjunction_agrees
    (hs : Agrees (readSimple o.strict e d n ts) (readSimple o e d n ts))
    (ih : ∀ us : List Lexeme, us.length < ts.length → ∀ n,
      Agrees (readDisjunction o.strict e d n us) (readDisjunction o e d n us)) :
    Agrees (readDisjunction o.strict e d n ts) (readDisjunction o e d n ts) := by
  rw [readDisjunction_eq, readDisjunction_eq]
  refine hs.bind fun first hfirst => ?_
  have hlt := ((read_sound (readsTerms _) e ts d n).1 first hfirst).length_lt (TermUnder.shape _)
  cases hrest : first.rest with
  | nil => exact .same _
  | cons l tail =>
    rw [hrest, List.length_cons] at hlt
    dsimp only
    split
    · exact (ih tail (by omega) first.terms).bind fun next _ => .same _
    · exact .same _

/-- They agree on a conjunction if they do on its first part and on all that is shorter. -/
theorem readConjunction_agrees
    (hs : Agrees (readDisjunction o.strict e d n ts) (readDisjunction o e d n ts))
    (ih : ∀ us : List Lexeme, us.length < ts.length → ∀ n,
      Agrees (readConjunction o.strict e d n us) (readConjunction o e d n us)) :
    Agrees (readConjunction o.strict e d n ts) (readConjunction o e d n ts) := by
  rw [readConjunction_eq, readConjunction_eq]
  refine hs.bind fun first hfirst => ?_
  have hlt := ((read_sound (readsTerms _) e ts d n).2.1 first hfirst).length_lt (TermUnder.shape _)
  cases hrest : first.rest with
  | nil => exact .same _
  | cons l tail =>
    rw [hrest] at hlt
    have hjoint := joint_length_le (l :: tail)
    dsimp only
    split
    · exact .same _
    · exact (ih _ (by omega) first.terms).bind fun next _ => .same _

/-- They agree on a query if they do on its first conjunction and on all that is shorter. -/
theorem readQuery_agrees
    (hs : Agrees (readConjunction o.strict e d n ts) (readConjunction o e d n ts))
    (ih : ∀ us : List Lexeme, us.length < ts.length → ∀ n,
      Agrees (readQuery o.strict e d n us) (readQuery o e d n us)) :
    Agrees (readQuery o.strict e d n ts) (readQuery o e d n ts) := by
  cases ts with
  | nil =>
    rw [readQuery_nil, readQuery_nil]
    exact .same _
  | cons l ts =>
    rw [readQuery_cons, readQuery_cons]
    split
    · exact .same _
    · refine hs.bind fun first hfirst => ?_
      have hlt := ((read_sound (readsTerms _) e (l :: ts) d n).2.2.1 first hfirst).length_lt
        (TermUnder.shape _)
      exact (ih _ hlt first.terms).bind fun next _ => .same _

end

/-- **Every rule reads the same strictly and leniently**, up to the first unknown value. -/
theorem read_agrees (o : ParseOptions) (e : Ending) (ts : List Lexeme) : ∀ d n,
    Agrees (readSimple o.strict e d n ts) (readSimple o e d n ts) ∧
    Agrees (readDisjunction o.strict e d n ts) (readDisjunction o e d n ts) ∧
    Agrees (readConjunction o.strict e d n ts) (readConjunction o e d n ts) ∧
    Agrees (readQuery o.strict e d n ts) (readQuery o e d n ts) := by
  -- As in `read_sound`, a rule calls the next one on the same lexemes and itself on fewer.
  induction hlen : ts.length using Nat.strongRecOn generalizing ts with
  | ind m ih =>
    subst hlen
    intro d n
    have hsimple : Agrees (readSimple o.strict e d n ts) (readSimple o e d n ts) :=
      readSimple_agrees fun us hlt d n => (ih _ hlt us rfl d n).2.2.2
    have hdisj := readDisjunction_agrees hsimple fun us hlt n => (ih _ hlt us rfl d n).2.1
    have hconj := readConjunction_agrees hdisj fun us hlt n => (ih _ hlt us rfl d n).2.2.1
    have hquery := readQuery_agrees hconj fun us hlt n => (ih _ hlt us rfl d n).2.2.2
    exact ⟨hsimple, hdisj, hconj, hquery⟩

/-- A text is parsed strictly as it is leniently, unless it is refused for an unknown value. -/
theorem Query.parse_agrees (text : String) (o : ParseOptions) :
    Agrees (Query.parse text o.strict) (Query.parse text o) := by
  have hread := (read_agrees o (Cursor.start text).scan.ending (Cursor.start text).scan.lexemes
    0 0).2.2.2
  rw [Query.parse, Query.parse, Scan.parse_eq, Scan.parse_eq]
  exact hread.bind fun found _ => .same _

/-! ## Words with a colon -/

/-- A search word of the tree stands without quotes and holds a colon. -/
def Query.hasColonWord : Query → Bool
  | and l r | or l r | butNot l r => l.hasColonWord || r.hasColonWord
  | text .anywhere w => !w.quoted && w.text.toList.contains ':'
  | text .. | flag .. | attachment | date .. | fullText .. => false

/-- A bareword that stands in a text is made of word characters. -/
theorem Token.Written.wordChars {t : Token} (h : t.Written) (hquoted : t.quoted = false)
    (hdelim : t.isDelimiter = false) :
    t.text.toList ≠ [] ∧ ∀ c ∈ t.text.toList, isWordChar c := by
  cases h with
  | quote => cases hquoted
  | delimiter hc =>
    simp only [isDelimiterChar, Bool.or_eq_true, beq_iff_eq] at hc
    rcases hc with (rfl | rfl) | rfl <;> cases hdelim
  | @word c cs _ hc hcs =>
    rw [bare, String.toList_ofList]
    exact ⟨List.cons_ne_nil _ _, List.forall_mem_cons.2 ⟨hc, hcs⟩⟩

/-- So it holds no colon. -/
theorem Token.Written.colon_not_mem {t : Token} (h : t.Written) (hquoted : t.quoted = false)
    (hdelim : t.isDelimiter = false) : ':' ∉ t.text.toList := by
  intro hmem
  cases (h.wordChars hquoted hdelim).2 ':' hmem

/-- No word of a tree that is parsed strictly holds a colon. -/
theorem Query.Searchable.hasColonWord {q : Query} (h : q.Searchable) :
    q.hasColonWord = false := by
  induction q with
  | and l r ihl ihr | or l r ihl ihr | butNot l r ihl ihr =>
    rw [Query.hasColonWord, ihl h.1, ihr h.2]
    rfl
  | text f w =>
    cases f with
    | anywhere =>
      obtain ⟨hwritten, htext⟩ := h
      cases hquoted : w.quoted with
      | true => simp [Query.hasColonWord, hquoted]
      | false => simpa [Query.hasColonWord, hquoted] using hwritten.colon_not_mem hquoted htext.1
    | sender | recipient | subject | category | verbatim => rfl
  | flag | attachment | date | fullText => rfl

/-- A tree without such words is derived without unknown values. -/
theorem Grammar.Derives.of_not_hasColonWord {u : UnknownValue} {several : Prop} {rule : Rule}
    {ts : List Token} {q : Query} (h : Derives (TermUnder u) several rule ts q)
    (hq : q.hasColonWord = false) : Derives (TermUnder .reject) several rule ts q := by
  induction h with
  | one _ ih => exact .one (ih hq)
  | operand _ ih => exact .operand (ih hq)
  | alternative _ ih => exact .alternative (ih hq)
  | group ha _ hb ih => exact .group ha (ih hq) hb
  | more hs _ _ ihq ihr =>
    rw [Query.hasColonWord, Bool.or_eq_false_iff] at hq
    exact .more hs (ihq hq.1) (ihr hq.2)
  | and _ hw _ ihq ihr =>
    rw [Query.hasColonWord, Bool.or_eq_false_iff] at hq
    exact .and (ihq hq.1) hw (ihr hq.2)
  | butNot _ hw ht _ ihq ihr =>
    rw [Query.hasColonWord, Bool.or_eq_false_iff] at hq
    exact .butNot (ihq hq.1) hw ht (ihr hq.2)
  | or _ ht _ ihq ihr =>
    rw [Query.hasColonWord, Bool.or_eq_false_iff] at hq
    exact .or (ihq hq.1) ht (ihr hq.2)
  | term h =>
    cases h with
    | known h => exact .term (.known h)
    | unknown => simp [Query.hasColonWord, Token.bare] at hq

/-- What a text is parsed to strictly is a search. -/
theorem Query.searchable_of_parse {text : String} {o : ParseOptions} {q : Query}
    (ho : o.unknownValue = .reject) (h : Query.parse text o = .ok q) : q.Searchable :=
  (Scan.parse_sound (readsTerms_reject ho) h).1.searchable (tokensOf_written text)

/-! ## The two ways to parse -/

/-- **Lenient parsing extends strict parsing, and no more.** A text that is parsed strictly is
parsed leniently to the same tree; one that is refused for anything but an unknown value is refused
leniently with the same error; and a lenient tree is the strict one exactly if none of its words
without quotes holds a colon, while otherwise the text is refused strictly for an unknown value. -/
theorem parse_lenient_iff (text : String) (o : ParseOptions) :
    (∀ q, Query.parse text { o with unknownValue := .reject } = .ok q →
      Query.parse text { o with unknownValue := .literal } = .ok q) ∧
    (∀ err, Query.parse text { o with unknownValue := .reject } = .error err →
      err.isUnknownValue = false →
        Query.parse text { o with unknownValue := .literal } = .error err) ∧
    (∀ q, Query.parse text { o with unknownValue := .literal } = .ok q →
      (Query.parse text { o with unknownValue := .reject } = .ok q ↔ q.hasColonWord = false) ∧
      (q.hasColonWord = true → ∃ err,
        Query.parse text { o with unknownValue := .reject } = .error err ∧
          err.isUnknownValue)) := by
  have hagree : Agrees (Query.parse text { o with unknownValue := .reject })
      (Query.parse text { o with unknownValue := .literal }) :=
    Query.parse_agrees text { o with unknownValue := .literal }
  have hstrict : ∀ q, Query.parse text { o with unknownValue := .reject } = .ok q →
      q.hasColonWord = false := fun q h => (Query.searchable_of_parse rfl h).hasColonWord
  have hback : ∀ q, Query.parse text { o with unknownValue := .literal } = .ok q →
      q.hasColonWord = false → Query.parse text { o with unknownValue := .reject } = .ok q := by
    intro q h hq
    obtain ⟨⟨hcheck, hder⟩, hlimits⟩ := Scan.parse_eq_ok.1 h
    exact Scan.parse_eq_ok.2 ⟨⟨hcheck, hder.of_not_hasColonWord hq⟩, hlimits⟩
  generalize Query.parse text { o with unknownValue := .reject } = strict at *
  generalize Query.parse text { o with unknownValue := .literal } = lenient at *
  cases hagree with
  | same =>
    refine ⟨fun q h => h, fun err h _ => h, fun q h => ⟨⟨hstrict q, hback q h⟩, fun hcolon => ?_⟩⟩
    rw [hstrict q h] at hcolon
    cases hcolon
  | @unknown err herr =>
    refine ⟨nofun, fun err' h hother => ?_,
      fun q h => ⟨⟨hstrict q, hback q h⟩, fun _ => ⟨err, rfl, herr⟩⟩⟩
    obtain rfl := Except.error.inj h
    rw [herr] at hother
    cases hother

/-- A colon between quotes is no sign of an unknown value; an unknown value is one also between
quotes. What is wrong before the first unknown value is reported either way. -/
theorem parse_lenient_iff_quoted :
    Query.parse "\"a:b\" Has:Attachment" { unknownValue := .literal } =
      .ok (.and (.text .anywhere (.quote "a:b")) .attachment) ∧
    Query.parse "a OR ) is:later" { unknownValue := .literal } =
      .error (.parse 5 (.unexpected (.bare ")"))) ∧
    (∃ err, Query.parse "a NOT IS:\"x y\"" {} = .error err ∧ err.isUnknownValue) := by
  have hknown : Query.parse "\"a:b\" Has:Attachment" {} =
      .ok (.and (.text .anywhere (.quote "a:b")) .attachment) := by decide +kernel
  have hfault : Query.parse "a OR ) is:later" {} =
      .error (.parse 5 (.unexpected (.bare ")"))) := by decide +kernel
  have hunknown : Query.parse "a NOT IS:\"x y\"" { unknownValue := .literal } =
      .ok (.butNot (.text .anywhere (.bare "a")) (.text .anywhere (.bare "IS:x y"))) := by
    decide +kernel
  exact ⟨(parse_lenient_iff _ {}).1 _ hknown, (parse_lenient_iff _ {}).2.1 _ hfault rfl,
    ((parse_lenient_iff _ {}).2.2 _ hunknown).2 (by decide)⟩

end MailSearch
