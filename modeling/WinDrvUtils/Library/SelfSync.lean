import Mathlib.Data.List.Infix

/-!
# Self-synchronising codes

A code writes each character as a word. It synchronises itself when the first
letter of a word can be told from the others, and no word is the beginning of
another one. In a coded text, a coded word can then occur only where the
characters of the word occur in the text (`flatMap_isInfix_iff`).
-/

universe u v

/-- `Start` holds of the letters that begin a word. -/
structure SelfSync {Character : Type u} {Letter : Type v}
    (code : Character → List Letter) (Start : Letter → Prop) : Prop where
  begins :
    ∀ character, ∃ first rest,
      code character = first :: rest ∧ Start first ∧
        ∀ letter ∈ rest, ¬ Start letter
  determined :
    ∀ {first second firstRest secondRest},
      code first ++ firstRest = code second ++ secondRest → first = second

namespace SelfSync

variable {Character : Type u} {Letter : Type v}
  {code : Character → List Letter} {Start : Letter → Prop}

theorem code_ne_nil
    (sync : SelfSync code Start) (character : Character) :
    code character ≠ [] := by
  obtain ⟨first, rest, word, _⟩ := sync.begins character
  rw [word]
  exact List.cons_ne_nil first rest

theorem flatMap_isPrefix_iff
    (sync : SelfSync code Start) (word text : List Character) :
    word.flatMap code <+: text.flatMap code ↔ word <+: text := by
  constructor
  · intro occurs
    induction word generalizing text with
    | nil => exact List.nil_prefix
    | cons character word inductionHypothesis =>
        obtain ⟨behind, equality⟩ := occurs
        rw [List.flatMap_cons, List.append_assoc] at equality
        cases text with
        | nil =>
            have nonempty := sync.code_ne_nil character
            exact absurd (List.append_eq_nil_iff.mp equality).1 nonempty
        | cons first text =>
            rw [List.flatMap_cons] at equality
            obtain rfl := sync.determined equality
            have rest := List.append_cancel_left equality
            rw [List.cons_prefix_cons]
            exact ⟨rfl, inductionHypothesis text ⟨behind, rest⟩⟩
  · rintro ⟨behind, rfl⟩
    rw [List.flatMap_append]
    exact List.prefix_append _ _

/-- What follows a part of a word, but not the whole of it, does not begin
with a word. -/
theorem false_of_inside
    (sync : SelfSync code Start) {character other : Character}
    {before inside after behind : List Letter}
    (cut : code character = before ++ inside) (beforeSome : before ≠ [])
    (insideSome : inside ≠ [])
    (follows : code other ++ behind = inside ++ after) : False := by
  obtain ⟨first, rest, word, _, restInner⟩ := sync.begins character
  obtain ⟨otherFirst, otherRest, otherWord, otherStarts, _⟩ :=
    sync.begins other
  cases before with
  | nil => exact beforeSome rfl
  | cons head before =>
      cases inside with
      | nil => exact insideSome rfl
      | cons letter inside =>
          rw [otherWord, List.cons_append, List.cons_append,
            List.cons.injEq] at follows
          rw [word, List.cons_append, List.cons.injEq] at cut
          have member : letter ∈ rest := by
            rw [cut.2]
            exact List.mem_append_right _ (List.mem_cons_self)
          apply restInner letter member
          rw [← follows.1]
          exact otherStarts

/-- Induction on the text: the word begins with the first character or behind
it, since it cannot begin inside. -/
theorem flatMap_isInfix_iff
    (sync : SelfSync code Start) (word text : List Character) :
    word.flatMap code <:+: text.flatMap code ↔ word <:+: text := by
  constructor
  · rintro ⟨before, behind, equality⟩
    cases word with
    | nil => exact List.nil_infix
    | cons character word =>
        rw [List.append_assoc] at equality
        induction text generalizing before with
        | nil =>
            have nonempty := sync.code_ne_nil character
            simp [nonempty] at equality
        | cons first text inductionHypothesis =>
            rw [List.infix_cons_iff]
            rw [@List.flatMap_cons _ _ first, List.append_eq_append_iff]
              at equality
            rcases equality with
              ⟨inside, cut, follows⟩ | ⟨more, _, follows⟩
            · by_cases beforeNone : before = []
              · left
                rw [← sync.flatMap_isPrefix_iff, @List.flatMap_cons _ _ first]
                rw [beforeNone, List.nil_append] at cut
                exact ⟨behind, cut ▸ follows⟩
              · right
                by_cases insideNone : inside = []
                · rw [insideNone, List.nil_append] at follows
                  exact inductionHypothesis [] follows
                · rw [List.flatMap_cons, List.append_assoc] at follows
                  exact
                    (sync.false_of_inside cut beforeNone insideNone
                      follows).elim
            · right
              exact inductionHypothesis more follows.symm
  · rintro ⟨before, behind, rfl⟩
    rw [List.flatMap_append, List.flatMap_append]
    exact List.infix_append _ _ _

end SelfSync
