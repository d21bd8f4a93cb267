import MailSearch.Query.FullText

/-!
# Condensing keeps the meaning

A tree is true or false of a message once it is known which full-text queries the index finds the
message with, and which flags, attachments and dates hold of it (`Message`). `condense_holds`: a
tree can always be condensed, and the condensed tree is true of the same messages. All that is asked
of the index is that it takes `AND` and `OR` between two queries for what they say
(`Message.Distributes`).

The queries in question are the lowerings of trees over a class of text leaves. The class matters: a
`verbatim` leaf is lowered to any text at all, and an index that took `AND` and `OR` apart in every
text would find everything or nothing (`Message.Distributes.constant`).

Lowering and condensing are told here once, as relations with a case for each thing they do
(`Query.Lowers`, `Query.Condenses`). What holds of their results, here and in the modules after this
one, is proved by induction on these.
-/

namespace MailSearch

/-! ## Meaning -/

/-- What is known of a message. -/
structure Message where
  /-- Whether the index finds the message with a full-text query. -/
  index : String → Bool
  flag : Flag → Bool → Bool
  attachment : Bool
  date : Token → Direction → Bool

namespace Query

/-- Whether a tree is true of a message. -/
def holds (m : Message) : Query → Bool
  | and l r => l.holds m && r.holds m
  | or l r => l.holds m || r.holds m
  | butNot l r => l.holds m && !r.holds m
  | text f w => m.index (f.lower w.text)
  | flag f status => m.flag f status
  | attachment => m.attachment
  | date phrase direction => m.date phrase direction
  | fullText raw => m.index raw

/-- Every text leaf is of a class. -/
def TextIn (leaf : Field → Token → Prop) : Query → Prop
  | and l r | or l r | butNot l r => l.TextIn leaf ∧ r.TextIn leaf
  | text f w => leaf f w
  | flag .. | attachment | date .. | fullText .. => True

end Query

/-- The index takes the joins of lowerings for what they say, for all trees that it can answer and
whose text leaves are of a class. -/
def Message.Distributes (m : Message) (leaf : Field → Token → Prop) : Prop :=
  ∀ l r : Query, l.isFoldable → r.isFoldable → l.TextIn leaf → r.TextIn leaf →
    ∀ left right, l.lower = .ok left → r.lower = .ok right →
      m.index ("(" ++ left ++ " AND " ++ right ++ ")") = (m.index left && m.index right) ∧
      m.index ("(" ++ left ++ " OR " ++ right ++ ")") = (m.index left || m.index right)

/-- With every leaf allowed, only the constants distribute: between `AND` and `OR` a text without
parentheses can be taken apart in two ways. -/
theorem Message.Distributes.constant {m : Message} (hm : m.Distributes fun _ _ => True)
    (a b : String) : m.index a = m.index b := by
  have hjoin : ∀ left right,
      m.index ("(" ++ left ++ " AND " ++ right ++ ")") = (m.index left && m.index right) ∧
      m.index ("(" ++ left ++ " OR " ++ right ++ ")") = (m.index left || m.index right) :=
    fun left right => hm (.text .verbatim (.bare left)) (.text .verbatim (.bare right)) rfl rfl
      trivial trivial left right rfl rfl
  have himp : ∀ a c, m.index a = true → m.index c = true := by
    intro a c ha
    have hand := (hjoin (a ++ " OR " ++ "") c).1
    have hor := (hjoin a ("" ++ " AND " ++ c)).2
    have hsame : "(" ++ (a ++ " OR " ++ "") ++ " AND " ++ c ++ ")" =
        "(" ++ a ++ " OR " ++ ("" ++ " AND " ++ c) ++ ")" := by simp only [String.append_assoc]
    rw [← hsame, hand, ha, Bool.true_or, Bool.and_eq_true] at hor
    exact hor.2
  rw [Bool.eq_iff_iff]
  exact ⟨himp a b, himp b a⟩

namespace Query

/-! ## Trees that the index can answer -/

variable {m : Message} {leaf : Field → Token → Prop} {q l r c : Query} {raw : String}

/-- The index can answer a conjunction or a disjunction if it can answer both sides. -/
theorem isFoldable_join (htextual : q.isTextual = (l.isTextual && r.isTextual))
    (hexclusion : q.hasExclusion = (l.hasExclusion || r.hasExclusion)) :
    q.isFoldable = (l.isFoldable && r.isFoldable) := by
  simp only [isFoldable, htextual, hexclusion, Bool.not_or]
  ac_rfl

/-- The index cannot answer an exclusion. -/
theorem isFoldable_butNot (l r : Query) : (butNot l r).isFoldable = false := by
  rw [isFoldable, hasExclusion, Bool.not_true, Bool.and_false]

/-- What a tree is lowered to: a text leaf by its field, and a join between parentheses. -/
inductive Lowers : Query → String → Prop where
  | text (f : Field) (w : Token) : Lowers (text f w) (f.lower w.text)
  | and {l r : Query} {left right : String} (hl : Lowers l left) (hr : Lowers r right) :
      Lowers (and l r) ("(" ++ left ++ " AND " ++ right ++ ")")
  | or {l r : Query} {left right : String} (hl : Lowers l left) (hr : Lowers r right) :
      Lowers (or l r) ("(" ++ left ++ " OR " ++ right ++ ")")

/-- The text of the relation is the one that `lower` gives. -/
theorem Lowers.lower_eq (h : Lowers q raw) : q.lower = .ok raw := by
  induction h with
  | text => rfl
  | and _ _ ihl ihr | or _ _ ihl ihr =>
    rw [lower, ihl, ihr]
    rfl

/-- The index can answer what is lowered. -/
theorem Lowers.isFoldable (h : Lowers q raw) : q.isFoldable := by
  induction h with
  | text => rfl
  | and _ _ ihl ihr | or _ _ ihl ihr =>
    rw [isFoldable_join rfl rfl, ihl, ihr]
    rfl

/-- **What the index can answer can be lowered.** -/
theorem lowers_of_isFoldable (h : q.isFoldable) : ∃ raw, Lowers q raw := by
  induction q with
  | and l r ihl ihr =>
    rw [isFoldable_join rfl rfl, Bool.and_eq_true] at h
    obtain ⟨left, hl⟩ := ihl h.1
    obtain ⟨right, hr⟩ := ihr h.2
    exact ⟨_, .and hl hr⟩
  | or l r ihl ihr =>
    rw [isFoldable_join rfl rfl, Bool.and_eq_true] at h
    obtain ⟨left, hl⟩ := ihl h.1
    obtain ⟨right, hr⟩ := ihr h.2
    exact ⟨_, .or hl hr⟩
  | butNot l r =>
    rw [isFoldable_butNot] at h
    cases h
  | text f w => exact ⟨_, .text f w⟩
  | flag | attachment | date | fullText => cases h

/-- The index finds with a lowered tree what the tree is true of. -/
theorem Lowers.index_eq (h : Lowers q raw) (hm : m.Distributes leaf) (hleaf : q.TextIn leaf) :
    m.index raw = q.holds m := by
  induction h with
  | text => rfl
  | and hl hr ihl ihr =>
    have hjoin := hm _ _ hl.isFoldable hr.isFoldable hleaf.1 hleaf.2 _ _ hl.lower_eq hr.lower_eq
    rw [hjoin.1, ihl hleaf.1, ihr hleaf.2, holds]
  | or hl hr ihl ihr =>
    have hjoin := hm _ _ hl.isFoldable hr.isFoldable hleaf.1 hleaf.2 _ _ hl.lower_eq hr.lower_eq
    rw [hjoin.2, ihl hleaf.1, ihr hleaf.2, holds]

/-! ## What condensing does -/

/-- What a tree is condensed to: what the index can answer becomes a leaf, any other join is kept
between its condensed sides, and any other leaf is kept. -/
inductive Condenses : Query → Query → Prop where
  | fold {q : Query} {raw : String} (h : Lowers q raw) : Condenses q (fullText raw)
  | and {l r l' r' : Query} (h : (and l r).isFoldable = false) (hl : Condenses l l')
      (hr : Condenses r r') : Condenses (and l r) (and l' r')
  | or {l r l' r' : Query} (h : (or l r).isFoldable = false) (hl : Condenses l l')
      (hr : Condenses r r') : Condenses (or l r) (or l' r')
  | butNot {l r l' r' : Query} (hl : Condenses l l') (hr : Condenses r r') :
      Condenses (butNot l r) (butNot l' r')
  | flag (f : Flag) (status : Bool) : Condenses (flag f status) (flag f status)
  | attachment : Condenses attachment attachment
  | date (phrase : Token) (direction : Direction) :
      Condenses (date phrase direction) (date phrase direction)
  | fullText (raw : String) : Condenses (fullText raw) (fullText raw)

/-- A tree that the index can answer is folded into one leaf. -/
theorem fold_condenses (h : q.isFoldable) : ∃ c, q.fold = .ok c ∧ Condenses q c := by
  obtain ⟨raw, hraw⟩ := lowers_of_isFoldable h
  exact ⟨fullText raw, by rw [fold, hraw.lower_eq]; rfl, .fold hraw⟩

/-- **Every tree can be condensed**, and in this way. -/
theorem condense_condenses (q : Query) : ∃ c, q.condense = .ok c ∧ Condenses q c := by
  induction q with
  | and l r ihl ihr | or l r ihl ihr =>
    obtain ⟨l', hl, hleft⟩ := ihl
    obtain ⟨r', hr, hright⟩ := ihr
    rw [condense]
    split
    next h => exact fold_condenses h
    next h =>
      rw [hl, hr]
      refine ⟨_, rfl, ?_⟩
      constructor
      · exact Bool.eq_false_iff.2 h
      · exact hleft
      · exact hright
  | butNot l r ihl ihr =>
    obtain ⟨l', hl, hleft⟩ := ihl
    obtain ⟨r', hr, hright⟩ := ihr
    rw [condense, hl, hr]
    exact ⟨butNot l' r', rfl, .butNot hleft hright⟩
  | text f w => exact fold_condenses rfl
  | flag f status => exact ⟨_, rfl, .flag f status⟩
  | attachment => exact ⟨_, rfl, .attachment⟩
  | date phrase direction => exact ⟨_, rfl, .date phrase direction⟩
  | fullText raw => exact ⟨_, rfl, .fullText raw⟩

/-- A condensed tree is true of the messages that the tree is true of. -/
theorem Condenses.holds_eq (h : Condenses q c) (hm : m.Distributes leaf) (hleaf : q.TextIn leaf) :
    c.holds m = q.holds m := by
  induction h with
  | fold h => exact h.index_eq hm hleaf
  | and _ _ _ ihl ihr | or _ _ _ ihl ihr | butNot _ _ ihl ihr =>
    rw [holds, holds, ihl hleaf.1, ihr hleaf.2]
  | flag | attachment | date | fullText => rfl

end Query

/-! ## An index that distributes

A small reader of full-text queries over words of one letter: it keeps a stack of parentheses, truth
values and joins, and takes a pair of parentheses for what stands between them. -/

namespace Letters

/-- What the reader has on its stack. -/
inductive Entry where
  | opened
  | value (b : Bool)
  | join (f : Bool → Bool → Bool)

/-- Takes a pair of parentheses off the stack, for what stood between them. -/
def close : List Entry → List Entry
  | .value b :: .join f :: .value a :: .opened :: stack => .value (f a b) :: stack
  | .value b :: .opened :: stack => .value b :: stack
  | stack => stack

/-- Reads a character, for a message that holds these letters. Quotes, stars, blanks and the letters
of a join after its first one are passed over. -/
def step (letters : List Char) (stack : List Entry) (c : Char) : List Entry :=
  if c = '(' then .opened :: stack
  else if c = ')' then close stack
  else if c = 'A' then .join and :: stack
  else if c = 'O' then .join or :: stack
  else if c.isLower then .value (letters.contains c) :: stack
  else stack

/-- Whether the query finds the message. -/
def index (letters : List Char) (query : String) : Bool :=
  match query.toList.foldl (step letters) [] with
  | [.value b] => b
  | _ => false

/-- The leaves that search for one letter anywhere. -/
def Leaf (f : Field) (w : Token) : Prop :=
  f = .anywhere ∧ ∃ c : Char, c.isLower ∧ w.text = String.ofList [c]

/-- The reader takes a query for a truth value. -/
def Gives (letters : List Char) (query : String) (b : Bool) : Prop :=
  ∀ stack, query.toList.foldl (step letters) stack = .value b :: stack

variable {letters : List Char} {left right : String} {a b : Bool}

/-- A text that gives a truth value alone is matched by the index with that value. -/
theorem Gives.index (h : Gives letters left a) : index letters left = a := by
  rw [Letters.index, h]

/-- Two queries between parentheses, with a join between them. -/
theorem Gives.join {word : String} {f : Bool → Bool → Bool} (hl : Gives letters left a)
    (hr : Gives letters right b)
    (hword : ∀ stack, word.toList.foldl (step letters) stack = .join f :: stack) :
    Gives letters ("(" ++ left ++ word ++ right ++ ")") (f a b) := by
  have hopen : ∀ stack, "(".toList.foldl (step letters) stack = .opened :: stack := fun _ => rfl
  intro stack
  simp only [String.toList_append, List.foldl_append]
  rw [hopen, hl, hword, hr]
  rfl

/-- Two texts in parentheses with `AND` between them give the conjunction. -/
theorem Gives.and (hl : Gives letters left a) (hr : Gives letters right b) :
    Gives letters ("(" ++ left ++ " AND " ++ right ++ ")") (a && b) :=
  hl.join hr fun _ => rfl

/-- Two texts in parentheses with `OR` between them give the disjunction. -/
theorem Gives.or (hl : Gives letters left a) (hr : Gives letters right b) :
    Gives letters ("(" ++ left ++ " OR " ++ right ++ ")") (a || b) :=
  hl.join hr fun _ => rfl

/-- A leaf is taken for whether the message holds its letter. -/
theorem Gives.leaf {c : Char} (hc : c.isLower) :
    Gives letters (Field.anywhere.lower (String.ofList [c])) (letters.contains c) := by
  have hne : ∀ d : Char, d.isLower = false → c ≠ d := by
    rintro d hd rfl
    rw [hc] at hd
    cases hd
  have hstep : ∀ stack, step letters stack c = .value (letters.contains c) :: stack := by
    intro stack
    rw [step, if_neg (hne _ rfl), if_neg (hne _ rfl), if_neg (hne _ rfl), if_neg (hne _ rfl),
      if_pos hc]
  have hopen : ∀ stack, "(\"".toList.foldl (step letters) stack = .opened :: stack := fun _ => rfl
  intro stack
  show ("(\"" ++ String.ofList [c] ++ "\"*)").toList.foldl (step letters) stack = _
  simp only [String.toList_append, String.toList_ofList, List.foldl_append]
  rw [hopen, List.foldl_cons, hstep]
  rfl

/-- A lowered tree over such leaves is taken for a truth value. -/
theorem gives_of_lowers (letters : List Char) {q : Query} {raw : String} (h : q.Lowers raw)
    (hleaf : q.TextIn Leaf) : ∃ b, Gives letters raw b := by
  induction h with
  | text f w =>
    obtain ⟨rfl, c, hc, hw⟩ := hleaf
    exact ⟨_, hw ▸ Gives.leaf hc⟩
  | and _ _ ihl ihr =>
    obtain ⟨a, ha⟩ := ihl hleaf.1
    obtain ⟨b, hb⟩ := ihr hleaf.2
    exact ⟨_, ha.and hb⟩
  | or _ _ ihl ihr =>
    obtain ⟨a, ha⟩ := ihl hleaf.1
    obtain ⟨b, hb⟩ := ihr hleaf.2
    exact ⟨_, ha.or hb⟩

/-- The reader takes joins for what they say. -/
theorem distributes {m : Message} (letters : List Char) (hm : m.index = index letters) :
    m.Distributes Leaf := by
  intro l r hl hr hl' hr' left right hleft hright
  obtain ⟨_, hlowers⟩ := Query.lowers_of_isFoldable hl
  obtain rfl := Except.ok.inj (hlowers.lower_eq.symm.trans hleft)
  obtain ⟨_, hlowers'⟩ := Query.lowers_of_isFoldable hr
  obtain rfl := Except.ok.inj (hlowers'.lower_eq.symm.trans hright)
  obtain ⟨a, ha⟩ := gives_of_lowers letters hlowers hl'
  obtain ⟨b, hb⟩ := gives_of_lowers letters hlowers' hr'
  rw [hm, ha.index, hb.index, (ha.and hb).index, (ha.or hb).index]
  exact ⟨rfl, rfl⟩

end Letters

/-- **Condensing keeps the meaning.** Every tree can be condensed, and what it is condensed to is
true of the same messages. The class of text leaves that the index is asked about is any one that
has the leaves of the tree; with the class of all leaves this is about all trees at once. -/
theorem condense_holds {m : Message} {leaf : Field → Token → Prop} (hm : m.Distributes leaf)
    {q : Query} (hleaf : q.TextIn leaf) :
    ∃ c, q.condense = .ok c ∧ c.holds m = q.holds m := by
  obtain ⟨c, hcondense, h⟩ := q.condense_condenses
  exact ⟨c, hcondense, h.holds_eq hm hleaf⟩

/-- A message with the letters `a` and `c`. One operand is folded as a whole; the other keeps its
exclusion, a query that was lowered before, and a flag. -/
theorem condense_holds_letters :
    let m : Message :=
      { index := Letters.index ['a', 'c'], flag := fun _ status => status, attachment := false,
        date := fun _ _ => true }
    let word : String → Query := fun w => .text .anywhere (.bare w)
    let q : Query := .and (.or (word "b") (.and (word "a") (word "c")))
      (.butNot (.or (.fullText "(\"b\"*)") (.flag .unread true)) (word "b"))
    m.Distributes Letters.Leaf ∧ q.TextIn Letters.Leaf ∧
    m.index "(\"a\"*)" = true ∧ m.index "(\"b\"*)" = false ∧
    ∃ c, q.condense = .ok c ∧ c.holds m = q.holds m := by
  intro m word q
  have hm : m.Distributes Letters.Leaf := Letters.distributes ['a', 'c'] rfl
  have hleaf : ∀ c : Char, c.isLower → Letters.Leaf .anywhere (.bare (String.ofList [c])) :=
    fun c hc => ⟨rfl, c, hc, rfl⟩
  have hq : q.TextIn Letters.Leaf :=
    ⟨⟨hleaf 'b' rfl, hleaf 'a' rfl, hleaf 'c' rfl⟩, ⟨trivial, trivial⟩, hleaf 'b' rfl⟩
  exact ⟨hm, hq, by decide, by decide, condense_holds hm hq⟩

end MailSearch
