import TenantLoad.Proofs.Pattern.Search
import TenantLoad.Retry.Classifier
import Mathlib.Data.List.Infix

/-!
# The signatures in a body

A word regardless of case is a sequence of folded characters, so a search for
it looks for the folded word in the folded text.  What does not change the
folded text of a body does not change the verdict on it.
-/

namespace TenantLoad

namespace Text

/-- Folding ignores the case of ASCII letters. -/
theorem fold_toLower (character : Char) : fold character.toLower = fold character := by
  by_cases ascii : character.toNat < 0x80
  · exact of_ascii (fun letter => fold letter.toLower = fold letter) (by decide) ascii
  · rw [toLower_of_not_ascii ascii]

/-- A stretch of a text is a word up to simple case folding. -/
def Mentions (text word : String) : Prop :=
  ∃ before stretch after, text.toList = before ++ stretch ++ after ∧
    stretch.map fold = word.toList.map fold

theorem mentions_iff_folds
    {text word : String} :
    Mentions text word ↔ word.toList.map fold <:+: text.toList.map fold := by
  constructor
  · rintro ⟨before, stretch, after, split, same⟩
    refine ⟨before.map fold, after.map fold, ?_⟩
    rw [split, List.map_append, List.map_append, same]
  · rintro ⟨before, after, split⟩
    obtain ⟨prior, rest, whole, isPrior, _⟩ := List.map_eq_append_iff.mp split.symm
    obtain ⟨earlier, stretch, rfl, _, same⟩ := List.map_eq_append_iff.mp isPrior
    exact ⟨earlier, stretch, rest, whole, same⟩

instance (text word : String) : Decidable (Mentions text word) :=
  decidable_of_iff _ mentions_iff_folds.symm

/-- The case of ASCII letters does not matter to what a text mentions. -/
theorem mentions_congr
    {text other : String}
    (same : text.toLower = other.toLower)
    (word : String) :
    Mentions text word ↔ Mentions other word := by
  have folded (text : String) : text.toList.map fold = text.toLower.toList.map fold := by
    have lowered : text.toLower.toList = text.toList.map Char.toLower := String.toList_map
    rw [lowered, List.map_map]
    exact List.map_congr_left fun character _ => (fold_toLower character).symm
  rw [mentions_iff_folds, mentions_iff_folds, folded text, folded other, same]

theorem Mentions.append
    {text word : String}
    (mentions : Mentions text word)
    (before after : String) :
    Mentions (before ++ text ++ after) word := by
  obtain ⟨prior, stretch, rest, split, same⟩ := mentions
  refine ⟨before.toList ++ prior, stretch, rest ++ after.toList, ?_, same⟩
  simp [split]

end Text

namespace Pattern

variable {first second : Pattern} {rest patterns : List Pattern} {text : List Char}

theorem bounded_ofSequence
    (bounded : ∀ pattern ∈ patterns, pattern.Bounded) :
    (ofSequence patterns).Bounded := by
  induction patterns with
  | nil => trivial
  | cons pattern rest inductionHypothesis =>
      rw [List.forall_mem_cons] at bounded
      cases rest with
      | nil => exact bounded.1
      | cons next rest => exact ⟨bounded.1, inductionHypothesis bounded.2⟩

theorem bounded_ofAlternatives
    (bounded : ∀ pattern ∈ first :: rest, pattern.Bounded) :
    (ofAlternatives first rest).Bounded := by
  induction rest generalizing first with
  | nil => exact bounded first List.mem_cons_self
  | cons second rest inductionHypothesis =>
      rw [List.forall_mem_cons] at bounded
      exact ⟨bounded.1, inductionHypothesis bounded.2⟩

theorem occurs_either_iff :
    Occurs (.either first second) text ↔ Occurs first text ∨ Occurs second text := by
  simp only [Occurs, matches_either_iff, and_or_left, exists_or]

theorem occurs_ofAlternatives_iff :
    Occurs (ofAlternatives first rest) text ↔
      ∃ pattern ∈ first :: rest, Occurs pattern text := by
  induction rest generalizing first with
  | nil => simp [ofAlternatives]
  | cons second rest inductionHypothesis =>
      rw [ofAlternatives, occurs_either_iff, inductionHypothesis]
      simp

/-- Folded characters one after another match what folds to the same. -/
theorem matches_ofSequence_folded_iff
    {word before stretch after : List Char} :
    Matches (ofSequence (word.map folded)) before stretch after ↔
      stretch.map Text.fold = word.map Text.fold := by
  induction word generalizing before stretch with
  | nil =>
      rw [List.map_nil, List.map_nil, List.map_eq_nil_iff]
      constructor
      · rintro ⟨⟩
        rfl
      · rintro rfl
        exact .empty
  | cons letter rest inductionHypothesis =>
      -- The last character of a word is not followed by an empty pattern.
      cases rest with
      | nil =>
          rw [List.map_singleton, ofSequence, matches_folded_iff]
          simp [List.map_eq_singleton_iff]
      | cons next rest =>
          rw [List.map_cons (a := letter) (f := Text.fold), List.map_eq_cons_iff]
          constructor
          · intro matched
            cases matched with
            | sequence isFirst isRest =>
                obtain ⟨found, rfl, same⟩ := matches_folded_iff.mp isFirst
                exact ⟨found, _, rfl, same, inductionHypothesis.mp isRest⟩
          · rintro ⟨found, stretch, rfl, same, sameRest⟩
            have isFirst : Matches (folded letter) before [found] (stretch ++ after) :=
              matches_folded_iff.mpr ⟨found, rfl, same⟩
            exact .sequence isFirst (inductionHypothesis.mpr sameRest)

end Pattern

namespace Retry

theorem Verdict.eq_iff
    {verdict other : Verdict} :
    verdict = other ↔ (verdict = .retry ↔ other = .retry) := by
  cases verdict <;> cases other <;> decide

namespace Classifier

variable {classifier : Classifier} {text word body : String}

theorem bounded_signature (word : String) : (signature word).Bounded := by
  refine Pattern.bounded_ofSequence ?_
  intro pattern isLetter
  obtain ⟨letter, _, rfl⟩ := List.mem_map.mp isLetter
  trivial

theorem occurs_signature_iff :
    (signature word).Occurs text.toList ↔ Text.Mentions text word := by
  simp only [Pattern.Occurs, signature, Pattern.matches_ofSequence_folded_iff, Text.Mentions]

/-- With the status whose body decides, a failure is retried if its body holds a signature. -/
theorem classify_bodyStatus_iff
    (notChosen : bodyStatus ∉ classifier.statuses)
    (bounded : classifier.signatures.Bounded) :
    classifier.classify (some bodyStatus) (some body) = .retry ↔
      classifier.signatures.Occurs body.toList := by
  rw [← Pattern.isMatch_iff_occurs bounded]
  simp [classify, notChosen]

/-- With any other status the body does not matter. -/
theorem classify_of_ne_bodyStatus
    {status : Option Nat}
    (differs : status ≠ some bodyStatus)
    (body other : Option String) :
    classifier.classify status body = classifier.classify status other := by
  cases status with
  | none => rfl
  | some status =>
      have isOther : status ≠ bodyStatus := fun same => differs (congrArg some same)
      simp only [classify, if_neg isOther]

/-- The words that the standard classifier looks for. -/
def standardWords : List String := ["40P01", "deadlock", "serializ", "timeout", "insert failed"]

theorem standard_retry_iff :
    standard.classify (some bodyStatus) (some body) = .retry ↔
      ∃ word ∈ standardWords, Text.Mentions body word := by
  have bounded : standard.signatures.Bounded := by
    refine Pattern.bounded_ofAlternatives ?_
    simp [bounded_signature]
  rw [classify_bodyStatus_iff (by decide) bounded, standard, Pattern.occurs_ofAlternatives_iff]
  simp [occurs_signature_iff, standardWords]

/-- The standard classifier is the one of the default statuses and signatures.  With status 400 it
retries exactly the bodies that mention one of its words up to simple case folding, so neither the
case of ASCII letters nor more text around them matters, and with any other status no body does. -/
theorem standard_body_rule :
    ofText? defaultStatuses defaultSignatures = some standard ∧
      (∀ body : String, standard.classify (some 400) (some body) = .retry ↔
        ∃ word ∈ standardWords, Text.Mentions body word) ∧
      (∀ body other : String, body.toLower = other.toLower → ∀ status,
        standard.classify status (some body) = standard.classify status (some other)) ∧
      (∀ before body after : String, standard.classify (some 400) (some body) = .retry →
        standard.classify (some 400) (some (before ++ body ++ after)) = .retry) ∧
      ∀ status : Option Nat, status ≠ some 400 → ∀ body other : Option String,
        standard.classify status body = standard.classify status other := by
  have rule : ∀ body : String, standard.classify (some 400) (some body) = .retry ↔
      ∃ word ∈ standardWords, Text.Mentions body word := fun _ => standard_retry_iff
  refine ⟨by rfl, rule, ?_, ?_, fun status => classify_of_ne_bodyStatus⟩
  · intro body other same status
    by_cases isBodyStatus : status = some bodyStatus
    · rw [isBodyStatus, Verdict.eq_iff, standard_retry_iff, standard_retry_iff]
      simp only [Text.mentions_congr same]
    · exact classify_of_ne_bodyStatus isBodyStatus ..
  · intro before body after retried
    obtain ⟨word, isWord, mentions⟩ := (rule body).mp retried
    exact (rule _).mpr ⟨word, isWord, mentions.append before after⟩

/-- The long s and the Kelvin sign fold to letters of ASCII. -/
theorem standard_body_rule_of_folded_letters :
    standard.classify (some 400) (some "could not ſerialize") = .retry ∧
      standard.classify (some 400) (some "DEADLOC\u212A") = .retry := by
  obtain ⟨_, rule, _⟩ := standard_body_rule
  exact ⟨(rule _).mpr ⟨"serializ", by decide, by decide⟩,
    (rule _).mpr ⟨"deadlock", by decide, by decide⟩⟩

end Classifier
end Retry
end TenantLoad
