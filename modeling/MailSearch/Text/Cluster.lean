import MailSearch.Text.Cluster.Role

/-!
# Clusters

A text divides into clusters, each of which a reader takes for one character. Whether a character
belongs to the cluster before it depends on its role and on what that cluster ends in (`joins`); the
rules are those of extended grapheme clusters. `clusters` divides a text, and putting the clusters
together gives the text.
-/

namespace MailSearch.Text

/-- A text, last character first, ends in a pictograph and extenders of it. -/
def endsInPictograph (before : List Char) : Bool :=
  match before.dropWhile fun c => Role.of c == .extender with
  | c :: _ => Role.of c == .pictograph
  | [] => false

/-- A text, last character first, ends in an odd number of letters of flags. -/
def endsInHalfFlag (before : List Char) : Bool :=
  (before.takeWhile fun c => Role.of c == .regional).length % 2 == 1

/-- May stand between a consonant and the one that is bound to it. -/
def isBinding (c : Char) : Bool :=
  c != '\u200c' && (Role.of c == .extender || Role.of c == .joiner)

/-- A text, last character first, ends in a consonant that the next one is bound to. -/
def endsInLinkedConsonant (before : List Char) : Bool :=
  match before.dropWhile isBinding with
  | c :: _ => Role.of c == .consonant && (before.takeWhile isBinding).any isLinker
  | [] => false

/-- A character belongs to the cluster before it, which is given last character first. -/
def joins (before : List Char) (c : Char) : Bool :=
  match before with
  | [] => false
  | last :: earlier =>
    match Role.of last, Role.of c with
    | .carriageReturn, .lineFeed => true
    | .carriageReturn, _ | .lineFeed, _ | .control, _ => false
    | _, .carriageReturn | _, .lineFeed | _, .control => false
    | .leading, .leading | .leading, .vowel => true
    | .leading, .openSyllable | .leading, .closedSyllable => true
    | .vowel, .vowel | .vowel, .trailing => true
    | .openSyllable, .vowel | .openSyllable, .trailing => true
    | .trailing, .trailing | .closedSyllable, .trailing => true
    | _, .extender | _, .joiner | _, .spacing => true
    | .opener, _ => true
    | .joiner, .pictograph => endsInPictograph earlier
    | .regional, .regional => endsInHalfFlag before
    | _, .consonant => endsInLinkedConsonant before
    | _, _ => false

/-- The clusters of a text that goes on from a cluster, which is given last character first. -/
def clustersFrom (cluster : List Char) : List Char → List (List Char)
  | [] => [cluster.reverse]
  | c :: cs =>
    if joins cluster c then clustersFrom (c :: cluster) cs
    else cluster.reverse :: clustersFrom [c] cs

/-- The clusters of a text. -/
def clusters : List Char → List (List Char)
  | [] => []
  | c :: cs => clustersFrom [c] cs

end MailSearch.Text
