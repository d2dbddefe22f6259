import Carbonshift.Library.Dictionary
import Carbonshift.Library.OverlapScore
import Mathlib.Algebra.BigOperators.Group.Finset.Basic
import Mathlib.Algebra.Order.BigOperators.Group.Multiset

/-!
# Scores of model outputs

Answers are compared by their words and entity lists as sets.  Both scores are
overlap scores, of the multisets of words and of the sets of entities.
-/

namespace Carbonshift

namespace Executor

/-! ## Text -/

/-- The character tables and the printer of the language. -/
structure PythonText where
  lower : String → String
  /-- Characters of the class of `\w`. -/
  isWord : Char → Bool
  isSpace : Char → Bool
  repr : String → String

/-- The ASCII punctuation characters. -/
def isPunctuation (character : Char) : Bool :=
  let code := character.toNat
  (33 ≤ code && code ≤ 47) || (58 ≤ code && code ≤ 64) ||
    (91 ≤ code && code ≤ 96) || (123 ≤ code && code ≤ 126)

namespace PythonText

variable (python : PythonText)

/-- Is there a word boundary between the character before, if there is one,
and the one after? -/
def isBoundary (before after : Option Char) : Bool :=
  before.any python.isWord != after.any python.isWord

/-- Length of the article that is matched at the start of the rest. -/
def articleAt (before : Option Char) (rest : List Char) : Option ℕ :=
  ([['a'], ['a', 'n'], ['t', 'h', 'e']].find? fun article =>
    python.isBoundary before rest.head? && article.isPrefixOf rest &&
      python.isBoundary article.getLast? (rest.drop article.length).head?).map
        List.length

/-- Put a space for every article.  The skipped characters are those of an
article that has been replaced. -/
def replaceArticles (before : Option Char) (skipped : ℕ) :
    List Char → List Char
  | [] => []
  | character :: rest =>
      match skipped with
      | skipped + 1 => replaceArticles (some character) skipped rest
      | 0 =>
          match python.articleAt before (character :: rest) with
          | none => character :: replaceArticles (some character) 0 rest
          | some length =>
              ' ' :: replaceArticles (some character) (length - 1) rest

/-- The words between white space. -/
def split (text : List Char) : List (List Char) :=
  (text.splitOnP python.isSpace).filter fun word => !word.isEmpty

/-- Lower case, without articles, punctuation and superfluous space. -/
def normalizeAnswerText (text : String) : List Char :=
  let replaced := python.replaceArticles none 0 (python.lower text).toList
  let bare := replaced.filter fun character => !isPunctuation character
  [' '].intercalate (python.split bare)

/-- The words of a normalised answer. -/
def answerTokens (text : String) : List (List Char) :=
  python.split (python.normalizeAnswerText text)

end PythonText

/-! ## Words -/

section Counting

variable {τ : Type} [DecidableEq τ]

/-- How often each token occurs. -/
def tokenCounts (tokens : List τ) : Dictionary τ ℕ :=
  tokens.foldl (fun counts token => counts.upsert token 0 (· + 1)) ∅

/-- Tokens that both sides have, as often as both have them. -/
def tokenOverlap (predCounts refCounts : Dictionary τ ℕ) : ℕ :=
  (predCounts.toPairs.map fun entry =>
    min entry.2 (refCounts.getD entry.1 0)).sum

theorem getD_tokenCounts (tokens : List τ) (token : τ) :
    (tokenCounts tokens).getD token 0 = tokens.count token := by
  have counted : ∀ counts : Dictionary τ ℕ,
      (tokens.foldl (fun counts token => counts.upsert token 0 (· + 1))
          counts).getD token 0 =
        counts.getD token 0 + tokens.count token := by
    induction tokens with
    | nil => exact fun _ => rfl
    | cons head rest inductionHypothesis =>
        intro counts
        rw [List.foldl_cons, inductionHypothesis]
        by_cases here : token = head
        · subst here
          rw [Dictionary.getD_upsert_self, List.count_cons_self]
          omega
        · rw [Dictionary.getD_upsert_of_ne here,
            List.count_cons_of_ne (Ne.symm here)]
  rw [tokenCounts, counted, Dictionary.getD_empty, zero_add]

theorem mem_tokenCounts {tokens : List τ} {token : τ}
    (member : token ∈ tokens) : token ∈ tokenCounts tokens := by
  by_contra absent
  have none_found := AList.lookup_eq_none.mpr absent
  have counted := getD_tokenCounts tokens token
  rw [Dictionary.getD, none_found] at counted
  exact (List.count_pos_iff.mpr member).ne counted

/-- The counters are those of a multiset intersection. -/
theorem tokenOverlap_eq_card_inter (predTokens refTokens : List τ) :
    tokenOverlap (tokenCounts predTokens) (tokenCounts refTokens) =
      ((predTokens : Multiset τ) ∩ refTokens).card := by
  have perKey :
      (tokenCounts predTokens).toPairs.map (fun entry =>
          min entry.2 ((tokenCounts refTokens).getD entry.1 0)) =
        (tokenCounts predTokens).keys.map fun token =>
          ((predTokens : Multiset τ) ∩ refTokens).count token := by
    rw [Dictionary.toPairs, AList.keys, List.keys, List.map_map, List.map_map]
    refine List.map_congr_left fun entry member => ?_
    have found : (tokenCounts predTokens).lookup entry.1 = some entry.2 :=
      AList.mem_lookup_iff.mpr member
    have counted := getD_tokenCounts predTokens entry.1
    rw [Dictionary.getD_of_lookup found] at counted
    rw [Function.comp_apply, Function.comp_apply, Multiset.count_inter,
      Multiset.coe_count, Multiset.coe_count, getD_tokenCounts, counted]
  rw [tokenOverlap, perKey,
    ← List.sum_toFinset _ (tokenCounts predTokens).keys_nodup]
  refine Multiset.sum_count_eq_card fun token common => ?_
  rw [List.mem_toFinset]
  exact mem_tokenCounts
    (Multiset.mem_coe.mp (Multiset.mem_of_le Multiset.inter_le_left common))

end Counting

/-- Word-overlap F1 of a predicted answer and a reference. -/
def wordOverlapF1 (python : PythonText) (predicted reference : String) : ℚ :=
  let predTokens := python.answerTokens predicted
  let refTokens := python.answerTokens reference
  if predTokens.isEmpty || refTokens.isEmpty then
    0
  else
    let overlap := tokenOverlap (tokenCounts predTokens) (tokenCounts refTokens)
    if overlap = 0 then
      0
    else
      let precision : ℚ := overlap / predTokens.length
      let recallRatio : ℚ := overlap / refTokens.length
      2 * precision * recallRatio / (precision + recallRatio)

/-- The score of two answers is the overlap score of their words. -/
theorem wordOverlapF1_eq (python : PythonText) (predicted reference : String) :
    wordOverlapF1 python predicted reference =
      OverlapScore.ofMultisets
        (python.answerTokens predicted : Multiset (List Char))
        (python.answerTokens reference : Multiset (List Char)) := by
  unfold wordOverlapF1
  generalize python.answerTokens predicted = predTokens
  generalize python.answerTokens reference = refTokens
  dsimp only
  rw [tokenOverlap_eq_card_inter]
  by_cases empty : (predTokens.isEmpty || refTokens.isEmpty) = true
  · rw [if_pos empty]
    rcases Bool.or_eq_true_iff.mp empty with noPred | noRef
    · rw [List.isEmpty_iff.mp noPred, Multiset.coe_nil,
        OverlapScore.ofMultisets_zero_left]
    · rw [List.isEmpty_iff.mp noRef, Multiset.coe_nil,
        OverlapScore.ofMultisets_comm, OverlapScore.ofMultisets_zero_left]
  · rw [if_neg empty]
    split
    · rename_i disjoint
      rw [OverlapScore.ofMultisets, disjoint, OverlapScore.f1_zero]
    · rfl

/-! ## Entities -/

/-- What is compared of an entity. -/
structure Entity where
  text : String
  label : Option String
  deriving DecidableEq, Repr

/-- The entities of a list, once each and in lower case. -/
def entitySet (python : PythonText) (entities : List Entity) :
    Finset (String × Option String) :=
  (entities.map fun entity => (python.lower entity.text, entity.label)).toFinset

/-- F1 of two entity lists as sets. -/
def entitySetF1 (python : PythonText) (predEntities refEntities : List Entity) :
    ℚ :=
  let predSet := entitySet python predEntities
  let refSet := entitySet python refEntities
  let overlap := (predSet ∩ refSet).card
  let precision : ℚ := if predSet = ∅ then 0 else overlap / predSet.card
  let recallRatio : ℚ := if refSet = ∅ then 0 else overlap / refSet.card
  if precision + recallRatio = 0 then
    0
  else
    2 * precision * recallRatio / (precision + recallRatio)

theorem entitySetF1_eq (python : PythonText)
    (predEntities refEntities : List Entity) :
    entitySetF1 python predEntities refEntities =
      OverlapScore.ofMultisets (entitySet python predEntities).val
        (entitySet python refEntities).val := by
  have share : ∀ (whole : Finset (String × Option String)) (overlap : ℕ),
      (if whole = ∅ then (0 : ℚ) else overlap / whole.card) =
        overlap / whole.card := by
    intro whole overlap
    split
    · rename_i empty
      rw [empty, Finset.card_empty, Nat.cast_zero, div_zero]
    · rfl
  rw [← OverlapScore.f1_card_inter]
  simp only [entitySetF1, share, OverlapScore.f1]
  split
  · rename_i nothing
    rw [nothing, div_zero]
  · rfl

end Executor

end Carbonshift
