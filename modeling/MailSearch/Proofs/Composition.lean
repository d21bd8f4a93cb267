import MailSearch.Proofs.Cutting

/-!
# Searches put together from searches

A search between parentheses is a simple query, whatever it was before, and simple queries can be
joined by every operator. `parse_groups` says so of texts: two texts that are parsed can be put
between parentheses as they are, with an operator or none between them, and the tree is that of the
join.

The parser is not followed through the longer text. A text keeps its tokens between parentheses
(`Query.scans_of_parse`), and its derivation goes on as a part of a larger one, one level deeper
(`Grouped`). Offsets, open parentheses and terms read before are no part of that.
-/

namespace MailSearch

open Grammar

/-- The text between parentheses is scanned to tokens that are one simple query, and keep to the
limit on depth. -/
structure Grouped (o : ParseOptions) (text : String) (ts : List Token) (q : Query) : Prop where
  scans : Scans (fun _ => True) ("(" ++ text ++ ")").toList ts
  derived : Derives (TermUnder o.unknownValue) False .simple ts q
  depth : mostOpen 0 ts ≤ o.maxDepth

/-- Parentheses around a piece that ends where no bareword goes on. -/
theorem Scans.group {cs : List Char} {ts : List Token} (h : Scans Boundary cs ts) :
    Scans (fun _ => True) ('(' :: cs ++ [')']) (.bare "(" :: ts ++ [.bare ")"]) := by
  have hclose := h.append (Scans.delimiter (c := ')') rfl) fun _ _ c hc => by cases hc; rfl
  exact (Scans.delimiter (c := '(') rfl).append hclose fun _ _ => trivial

/-- **A text that is parsed can be put between parentheses**, where one more may be open. -/
theorem Query.grouped_of_parse {text : String} {o o' : ParseOptions} {q : Query}
    (h : Query.parse text o = .ok q) (hvalue : o'.unknownValue = o.unknownValue)
    (hdepth : o.maxDepth < o'.maxDepth) :
    Grouped o' text (.bare "(" :: tokensOf text ++ [.bare ")"]) q := by
  obtain ⟨⟨-, hder⟩, hopen, -⟩ := Scan.parse_eq_ok.1 h
  rw [← tokensOf] at hder hopen
  refine ⟨?_, ?_, ?_⟩
  · simpa using (Query.scans_of_parse h).group
  · rw [hvalue]
    exact .group rfl hder rfl
  · rw [hder.mostOpen_group (TermUnder.shape _) rfl rfl]
    omega

namespace Grouped

variable {o : ParseOptions} {text₁ text₂ : String} {ts₁ ts₂ : List Token} {q₁ q₂ : Query}

/-- The words that join two operands. -/
def joining : List String :=
  ["AND", "OR", "NOT"]

/-- A joining word can be written, and is no parenthesis. -/
theorem joining_written : ∀ w ∈ joining, IsWord w ∧
    (Token.bare w).isKeyword "(" = false ∧ (Token.bare w).isKeyword ")" = false := by
  decide

/-- One text between parentheses. -/
theorem parse (h : Grouped o text₁ ts₁ q₁) (hterms : q₁.leafCount ≤ o.maxTerms) :
    Query.parse ("(" ++ text₁ ++ ")") o = .ok q₁ :=
  Query.parse_of_scans (h.scans.weaken fun _ _ => trivial)
    (.one (.operand (.alternative h.derived))) h.depth hterms

/-- **Two texts between parentheses, with some joining words between them**, are parsed to whatever
tree is derived from their tokens. -/
theorem parse_join (h₁ : Grouped o text₁ ts₁ q₁) (h₂ : Grouped o text₂ ts₂ q₂)
    (ws : List String) {q : Query} {text : String} (hws : ws ⊆ joining)
    (htext : text.toList = ("(" ++ text₁ ++ ")").toList ++
      (spaced (ws.map .bare) ++ ([' '] ++ ("(" ++ text₂ ++ ")").toList)))
    (hder : Derives (TermUnder o.unknownValue) False .conjunction
      (ts₁ ++ ws.map .bare ++ ts₂) q)
    (hterms : q.leafCount ≤ o.maxTerms) : Query.parse text o = .ok q := by
  have hwritten : ∀ t ∈ ws.map Token.bare, t.Written := by
    intro t ht
    obtain ⟨w, hw, rfl⟩ := List.mem_map.1 ht
    exact (joining_written w (hws hw)).1.written
  have hflat : ∀ t ∈ ws.map Token.bare, t.isKeyword "(" = false ∧ t.isKeyword ")" = false := by
    intro t ht
    obtain ⟨w, hw, rfl⟩ := List.mem_map.1 ht
    exact (joining_written w (hws hw)).2
  have hblank : Scans (fun _ => True) [' '] [] := Scans.spacing (by simp [isSpacing])
  have hsecond := (Scans.spaced hwritten).append (hblank.append h₂.scans fun _ _ => trivial)
    fun _ _ c hc => by cases hc; rfl
  have hscans := h₁.scans.append hsecond fun _ _ => trivial
  rw [← htext, List.nil_append, ← List.append_assoc] at hscans
  refine Query.parse_of_scans (hscans.weaken fun _ _ => trivial) (.one hder) ?_ hterms
  rw [List.append_assoc, h₁.derived.mostOpen_append (TermUnder.shape _), mostOpen_flat hflat,
    Nat.zero_add]
  exact Nat.max_le.2 ⟨h₁.depth, h₂.depth⟩

end Grouped

/-- **Searches can be put together.** Two texts that are parsed are parsed to the same trees between
parentheses, and joined by nothing, `AND`, `OR`, `NOT` or `AND NOT` to the join of the two trees, if
one parenthesis more may be open and there may be as many terms as the two have together. -/
theorem parse_groups {text₁ text₂ : String} {o o' : ParseOptions} {q₁ q₂ : Query}
    (h₁ : Query.parse text₁ o = .ok q₁) (h₂ : Query.parse text₂ o = .ok q₂)
    (hvalue : o'.unknownValue = o.unknownValue) (hdepth : o.maxDepth < o'.maxDepth)
    (hterms : q₁.leafCount + q₂.leafCount ≤ o'.maxTerms) :
    Query.parse ("(" ++ text₁ ++ ")") o' = .ok q₁ ∧
    Query.parse ("(" ++ text₁ ++ ") (" ++ text₂ ++ ")") o' = .ok (.and q₁ q₂) ∧
    Query.parse ("(" ++ text₁ ++ ") AND (" ++ text₂ ++ ")") o' = .ok (.and q₁ q₂) ∧
    Query.parse ("(" ++ text₁ ++ ") OR (" ++ text₂ ++ ")") o' = .ok (.or q₁ q₂) ∧
    Query.parse ("(" ++ text₁ ++ ") NOT (" ++ text₂ ++ ")") o' = .ok (.butNot q₁ q₂) ∧
    Query.parse ("(" ++ text₁ ++ ") AND NOT (" ++ text₂ ++ ")") o' = .ok (.butNot q₁ q₂) := by
  have hg₁ := Query.grouped_of_parse h₁ hvalue hdepth
  have hg₂ := Query.grouped_of_parse h₂ hvalue hdepth
  generalize (.bare "(" :: tokensOf text₁ ++ [.bare ")"] : List Token) = ts₁ at hg₁
  generalize (.bare "(" :: tokensOf text₂ ++ [.bare ")"] : List Token) = ts₂ at hg₂
  have hleft : Derives (TermUnder o'.unknownValue) False .disjunction ts₁ q₁ :=
    .alternative hg₁.derived
  have hright : Derives (TermUnder o'.unknownValue) False .conjunction ts₂ q₂ :=
    .operand (.alternative hg₂.derived)
  refine ⟨hg₁.parse (by omega), ?_, ?_, ?_, ?_, ?_⟩
  · exact hg₁.parse_join hg₂ [] (by decide) (by simp [spaced])
      (.and hleft (.inl rfl) hright) hterms
  · exact hg₁.parse_join hg₂ ["AND"] (by decide) (by simp [spaced])
      (.and hleft (.inr ⟨.bare "AND", rfl, rfl⟩) hright) hterms
  · have hor := Derives.or (t := .bare "OR") hg₁.derived rfl (.alternative hg₂.derived)
    exact hg₁.parse_join hg₂ ["OR"] (by decide) (by simp [spaced])
      (by simpa using Derives.operand hor) hterms
  · have hnot := Derives.butNot (t := .bare "NOT") hleft (.inl rfl) rfl hright
    exact hg₁.parse_join hg₂ ["NOT"] (by decide) (by simp [spaced])
      (by simpa using hnot) hterms
  · have hnot := Derives.butNot (t := .bare "NOT") hleft (.inr ⟨.bare "AND", rfl, rfl⟩) rfl hright
    exact hg₁.parse_join hg₂ ["AND", "NOT"] (by decide) (by simp [spaced])
      (by simpa using hnot) hterms

/-- A chain, a bareword that touches the parenthesis behind it, a quote inside a word, and a group
that uses up the depth that the text itself may have. -/
theorem parse_groups_chains :
    let text₁ := "a NOT (b OR c\"d)"
    let text₂ := " is:later \"(\""
    let o : ParseOptions := { maxDepth := 1, maxTerms := 3, unknownValue := .literal }
    let o' : ParseOptions := { maxDepth := 2, maxTerms := 5, unknownValue := .literal }
    let q₁ := Query.butNot (.text .anywhere (.bare "a"))
      (.or (.text .anywhere (.bare "b")) (.text .anywhere (.bare "c\"d")))
    let q₂ := Query.and (.text .anywhere (.bare "is:later")) (.text .anywhere (.quote "("))
    (Query.parse text₁ o = .ok q₁ ∧ Query.parse text₂ o = .ok q₂ ∧ o.maxDepth < o'.maxDepth ∧
      q₁.leafCount + q₂.leafCount ≤ o'.maxTerms) ∧
    Query.parse "(a NOT (b OR c\"d)) ( is:later \"(\")" o' = .ok (.and q₁ q₂) ∧
    Query.parse "(a NOT (b OR c\"d)) AND NOT ( is:later \"(\")" o' = .ok (.butNot q₁ q₂) := by
  intro text₁ text₂ o o' q₁ q₂
  have h₁ : Query.parse text₁ o = .ok q₁ := by decide +kernel
  have h₂ : Query.parse text₂ o = .ok q₂ := by decide +kernel
  have hvalue : o'.unknownValue = o.unknownValue := rfl
  have hdepth : o.maxDepth < o'.maxDepth := by decide
  have hterms : q₁.leafCount + q₂.leafCount ≤ o'.maxTerms := by decide
  obtain ⟨-, hand, -, -, -, hnot⟩ := parse_groups h₁ h₂ hvalue hdepth hterms
  exact ⟨⟨h₁, h₂, hdepth, hterms⟩, hand, hnot⟩

end MailSearch
