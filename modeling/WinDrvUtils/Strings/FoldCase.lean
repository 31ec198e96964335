import Mathlib.Tactic.SplitIfs
import WinDrvUtils.Strings.Contains

/-!
# Ignoring case

`contains` lowers the needle and the string apart from each other. Only the
lower case of `Σ` depends on what is around it: behind a cased letter and
before none it is `ς`, and `σ` anywhere else, where what is ignorable does not
count. So a needle can be missed in a string that it occurs in, if what is
around it in the string reaches one of its `Σ`.
-/

namespace WinDrvUtils

/-! ## Lists -/

/-- What holds of every place of an item in a list, from the first one on. -/
theorem forall_split_cons_iff
    {α : Type} {head item : α} {tail : List α}
    {property : List α → List α → Prop} :
    (∀ before behind,
        head :: tail = before ++ item :: behind → property before behind) ↔
      (head = item → property [] tail) ∧
        ∀ before behind,
          tail = before ++ item :: behind →
            property (head :: before) behind := by
  constructor
  · intro every
    refine ⟨?_, ?_⟩
    · rintro rfl
      exact every [] tail rfl
    · rintro before behind rfl
      exact every (head :: before) behind rfl
  · rintro ⟨first, later⟩ before behind split
    cases before with
    | nil =>
        obtain ⟨rfl, rfl⟩ := List.cons.inj split
        exact first rfl
    | cons other before =>
        obtain ⟨rfl, tailSplit⟩ := List.cons.inj split
        exact later before behind tailSplit

/-- A list of the same length is not found beside another item than its
first. -/
theorem not_isInfix_cons
    {α : Type} {list other : List α} {item : α}
    (sameLength : list.length = other.length) (different : list ≠ other)
    (notFirst : list.head? ≠ some item) : ¬ list <:+: item :: other := by
  rw [List.infix_cons_iff]
  rintro (atFront | later)
  · cases list with
    | nil => exact different (List.length_eq_zero_iff.mp sameLength.symm).symm
    | cons first rest =>
        have same := (List.cons_prefix_cons.mp atFront).1
        exact notFirst (congrArg some same)
  · exact different (later.eq_of_length sameLength)

theorem not_isInfix_concat
    {α : Type} {list other : List α} {item : α}
    (sameLength : list.length = other.length) (different : list ≠ other)
    (notLast : list.getLast? ≠ some item) :
    ¬ list <:+: other ++ [item] := by
  rw [← List.reverse_infix, List.reverse_append, List.reverse_singleton,
    List.singleton_append]
  apply not_isInfix_cons
  · rw [List.length_reverse, List.length_reverse, sameLength]
  · exact mt List.reverse_inj.mp different
  · rw [List.head?_reverse]
    exact notLast

/-! ## Lower case in a context -/

namespace LowercaseTable

variable (table : LowercaseTable)

/-- The lower case of a text in a longer one; what is before it in reverse. -/
def lowercaseWithin (before behind : List Char) : List Char → List Char
  | [] => []
  | char :: rest =>
      table.lowercaseChar before char (rest ++ behind) ++
        lowercaseWithin (char :: before) behind rest

theorem lowercaseFrom_append (before text behind : List Char) :
    table.lowercaseFrom before (text ++ behind) =
      table.lowercaseWithin before behind text ++
        table.lowercaseFrom (text.reverse ++ before) behind := by
  induction text generalizing before with
  | nil => rfl
  | cons char rest inductionHypothesis =>
      rw [List.cons_append, lowercaseFrom, inductionHypothesis,
        lowercaseWithin, List.append_assoc, List.reverse_cons,
        List.append_assoc, List.singleton_append]

theorem lowercaseFrom_eq (before text : List Char) :
    table.lowercaseFrom before text = table.lowercaseWithin before [] text := by
  have split := table.lowercaseFrom_append before text []
  rw [List.append_nil, lowercaseFrom, List.append_nil] at split
  exact split

theorem lowercaseWithin_isInfix (before text behind : List Char) :
    table.lowercaseWithin before.reverse behind text <:+:
      table.lowercaseFrom [] (before ++ text ++ behind) := by
  rw [List.append_assoc, lowercaseFrom_append, lowercaseFrom_append,
    List.append_nil, ← List.append_assoc]
  exact List.infix_append _ _ _

theorem lowercaseChar_sigma_eq_iff
    {before behind otherBefore otherBehind : List Char} :
    table.lowercaseChar before 'Σ' behind =
        table.lowercaseChar otherBefore 'Σ' otherBehind ↔
      table.endsWord before behind =
        table.endsWord otherBefore otherBehind := by
  rw [lowercaseChar, lowercaseChar, if_pos rfl, if_pos rfl,
    List.cons_eq_cons]
  cases table.endsWord before behind <;>
    cases table.endsWord otherBefore otherBehind <;> decide

theorem lowercaseChar_of_ne
    (before otherBefore : List Char) {char : Char} (notSigma : char ≠ 'Σ')
    (behind otherBehind : List Char) :
    table.lowercaseChar before char behind =
      table.lowercaseChar otherBefore char otherBehind := by
  rw [lowercaseChar, lowercaseChar, if_neg notSigma, if_neg notSigma]

theorem lowercaseChar_eq_iff
    {before otherBefore : List Char} {char : Char}
    {behind otherBehind : List Char} :
    table.lowercaseChar before char behind =
        table.lowercaseChar otherBefore char otherBehind ↔
      (char = 'Σ' →
        table.endsWord before behind =
          table.endsWord otherBefore otherBehind) := by
  by_cases sigma : char = 'Σ'
  · rw [imp_iff_right sigma, sigma, lowercaseChar_sigma_eq_iff]
  · exact
      iff_of_true (table.lowercaseChar_of_ne _ _ sigma _ _) fun isSigma =>
        absurd isSigma sigma

theorem length_lowercaseChar_eq
    (before otherBefore : List Char) (char : Char)
    (behind otherBehind : List Char) :
    (table.lowercaseChar before char behind).length =
      (table.lowercaseChar otherBefore char otherBehind).length := by
  by_cases sigma : char = 'Σ'
  · rw [lowercaseChar, lowercaseChar, if_pos sigma, if_pos sigma]
    rfl
  · rw [table.lowercaseChar_of_ne before otherBefore sigma behind otherBehind]

theorem length_lowercaseWithin_eq
    (before otherBefore behind otherBehind text : List Char) :
    (table.lowercaseWithin before behind text).length =
      (table.lowercaseWithin otherBefore otherBehind text).length := by
  induction text generalizing before otherBefore with
  | nil => rfl
  | cons char rest inductionHypothesis =>
      rw [lowercaseWithin, lowercaseWithin, List.length_append,
        List.length_append, inductionHypothesis (char :: before),
        table.length_lowercaseChar_eq before otherBefore]

/-- The lower case is the same in two contexts exactly when every `Σ` ends a
word in both or in none. -/
theorem lowercaseWithin_eq_iff
    {before otherBefore behind otherBehind text : List Char} :
    table.lowercaseWithin before behind text =
        table.lowercaseWithin otherBefore otherBehind text ↔
      ∀ first last,
        text = first ++ 'Σ' :: last →
          table.endsWord (first.reverse ++ before) (last ++ behind) =
            table.endsWord (first.reverse ++ otherBefore)
              (last ++ otherBehind) := by
  induction text generalizing before otherBefore with
  | nil =>
      refine iff_of_true rfl ?_
      intro first last split
      have notNil : first ++ 'Σ' :: last ≠ [] :=
        List.append_ne_nil_of_right_ne_nil first (List.cons_ne_nil 'Σ' last)
      exact absurd split.symm notNil
  | cons char rest inductionHypothesis =>
      have sameLength :=
        table.length_lowercaseChar_eq before otherBefore char
          (rest ++ behind) (rest ++ otherBehind)
      rw [lowercaseWithin, lowercaseWithin,
        List.append_eq_append_iff_of_size_eq_left sameLength,
        lowercaseChar_eq_iff, inductionHypothesis, forall_split_cons_iff]
      simp only [List.reverse_cons, List.append_assoc, List.singleton_append]
      rfl

end LowercaseTable

/-! ## The end of a word -/

/-- Of the characters that are not ignorable, the first is cased. -/
def caseIgnorableThenCased (cased ignorable : Char → Bool)
    (chars : List Char) : Bool :=
  (chars.find? fun char => !ignorable char).any cased

/-- A table with the rule for `Σ`: it ends a word behind a cased letter and
before none. Two letters with their lower case are named. -/
structure SigmaTable extends LowercaseTable where
  cased : Char → Bool
  ignorable : Char → Bool
  endsWord_eq :
    ∀ before behind,
      endsWord before behind =
        (caseIgnorableThenCased cased ignorable before &&
          !caseIgnorableThenCased cased ignorable behind)
  letterA : cased 'A' = true ∧ ignorable 'A' = false ∧ mapping 'A' = ['a']
  letterB : cased 'B' = true ∧ ignorable 'B' = false ∧ mapping 'B' = ['b']

namespace SigmaTable

variable (table : SigmaTable)

def thenCased (chars : List Char) : Bool :=
  caseIgnorableThenCased table.cased table.ignorable chars

def AllIgnorable (chars : List Char) : Prop :=
  ∀ char ∈ chars, table.ignorable char = true

/-- No `Σ` of the text depends on what is around the text: none is behind
ignorable characters alone and before no cased one, and none is behind a cased
one and before ignorable characters alone. -/
def FixedSigmas (text : List Char) : Prop :=
  ∀ before behind,
    text = before ++ 'Σ' :: behind →
      ¬ (table.AllIgnorable before ∧ table.thenCased behind = false) ∧
        ¬ (table.thenCased before.reverse = true ∧
            table.AllIgnorable behind)

section Contexts

variable {table}

theorem find?_eq_none_iff {chars : List Char} :
    (chars.find? fun char => !table.ignorable char) = none ↔
      table.AllIgnorable chars := by
  rw [List.find?_eq_none]
  refine forall₂_congr fun char _ => ?_
  rw [Bool.not_eq_true, Bool.not_eq_false']

theorem endsWord_eq_thenCased (before behind : List Char) :
    table.endsWord before behind =
      (table.thenCased before && !table.thenCased behind) :=
  table.endsWord_eq before behind

theorem AllIgnorable.reverse_iff {chars : List Char} :
    table.AllIgnorable chars.reverse ↔ table.AllIgnorable chars :=
  forall_congr' fun _ => imp_congr List.mem_reverse Iff.rfl

theorem AllIgnorable.thenCased_append
    {chars : List Char} (ignored : table.AllIgnorable chars)
    (others : List Char) :
    table.thenCased (chars ++ others) = table.thenCased others := by
  rw [thenCased, caseIgnorableThenCased, List.find?_append,
    find?_eq_none_iff.mpr ignored]
  rfl

theorem AllIgnorable.thenCased
    {chars : List Char} (ignored : table.AllIgnorable chars) :
    table.thenCased chars = false := by
  have alone := ignored.thenCased_append []
  rw [List.append_nil] at alone
  exact alone

theorem thenCased_append_of_not
    {chars : List Char} (notIgnored : ¬ table.AllIgnorable chars)
    (others : List Char) :
    table.thenCased (chars ++ others) = table.thenCased chars := by
  obtain ⟨char, found⟩ :=
    Option.ne_none_iff_exists'.mp (mt find?_eq_none_iff.mp notIgnored)
  rw [SigmaTable.thenCased, SigmaTable.thenCased, caseIgnorableThenCased,
    caseIgnorableThenCased, List.find?_append, found]
  rfl

theorem thenCased_letter
    {letter : Char} (cased : table.cased letter = true)
    (notIgnorable : table.ignorable letter = false) (others : List Char) :
    table.thenCased (letter :: others) = true := by
  have kept : (!table.ignorable letter) = true := by rw [notIgnorable]; rfl
  rw [SigmaTable.thenCased, caseIgnorableThenCased, List.find?_cons, kept]
  exact cased

/-- What is around the text does not reach the `Σ` between the two parts. -/
theorem endsWord_append
    {first last : List Char}
    (notFirst :
      ¬ (table.AllIgnorable first ∧ table.thenCased last = false))
    (notLast :
      ¬ (table.thenCased first.reverse = true ∧ table.AllIgnorable last))
    (before behind : List Char) :
    table.endsWord (first.reverse ++ before) (last ++ behind) =
      table.endsWord first.reverse last := by
  rw [endsWord_eq_thenCased, endsWord_eq_thenCased]
  by_cases firstIgnored : table.AllIgnorable first
  · have cased : table.thenCased last = true :=
      eq_true_of_ne_false fun notCased => notFirst ⟨firstIgnored, notCased⟩
    have lastKept : ¬ table.AllIgnorable last := by
      intro lastIgnored
      rw [lastIgnored.thenCased] at cased
      cases cased
    rw [thenCased_append_of_not lastKept, cased, Bool.not_true,
      Bool.and_false, Bool.and_false]
  · have firstKept := mt AllIgnorable.reverse_iff.mp firstIgnored
    rw [thenCased_append_of_not firstKept]
    by_cases lastIgnored : table.AllIgnorable last
    · have notCased : table.thenCased first.reverse = false :=
        eq_false_of_ne_true fun cased => notLast ⟨cased, lastIgnored⟩
      rw [notCased, Bool.false_and, Bool.false_and]
    · rw [thenCased_append_of_not lastIgnored]

theorem FixedSigmas.lowercaseWithin_eq
    {text : List Char} (fixed : table.FixedSigmas text)
    (before behind : List Char) :
    table.lowercaseWithin before behind text =
      table.lowercaseFrom [] text := by
  rw [table.lowercaseFrom_eq, table.lowercaseWithin_eq_iff]
  intro first last split
  obtain ⟨notFirst, notLast⟩ := fixed first last split
  rw [List.append_nil, List.append_nil]
  exact endsWord_append notFirst notLast before behind

/-- In lower case too, the text occurs wherever it occurs. -/
theorem FixedSigmas.isInfix
    {text hay : List Char} (fixed : table.FixedSigmas text)
    (occurs : text <:+: hay) :
    table.lowercaseFrom [] text <:+: table.lowercaseFrom [] hay := by
  obtain ⟨before, behind, rfl⟩ := occurs
  have within := table.lowercaseWithin_isInfix before text behind
  rw [fixed.lowercaseWithin_eq] at within
  exact within

end Contexts

/-! ## A letter beside the text -/

/-- A cased letter of one unit, with its lower case. -/
structure Letter (letter lower : Char) : Prop where
  cased : table.cased letter = true
  notIgnorable : table.ignorable letter = false
  lowercaseChar_eq :
    ∀ before behind, table.lowercaseChar before letter behind = [lower]
  oneUnit : (Utf16.encodeChar letter).length = 1

theorem letter_a : table.Letter 'A' 'a' where
  cased := table.letterA.1
  notIgnorable := table.letterA.2.1
  lowercaseChar_eq := by
    intro before behind
    have notSigma : 'A' ≠ 'Σ' := by decide
    rw [LowercaseTable.lowercaseChar, if_neg notSigma]
    exact table.letterA.2.2
  oneUnit := by decide

theorem letter_b : table.Letter 'B' 'b' where
  cased := table.letterB.1
  notIgnorable := table.letterB.2.1
  lowercaseChar_eq := by
    intro before behind
    have notSigma : 'B' ≠ 'Σ' := by decide
    rw [LowercaseTable.lowercaseChar, if_neg notSigma]
    exact table.letterB.2.2
  oneUnit := by decide

theorem exists_letter_ne (other : Option Char) :
    ∃ letter lower, table.Letter letter lower ∧ other ≠ some lower := by
  by_cases isA : other = some 'a'
  · refine ⟨'B', 'b', table.letter_b, ?_⟩
    rw [isA]
    decide
  · exact ⟨'A', 'a', table.letter_a, isA⟩

section Missing

variable {table} {letter lower : Char} {first last : List Char}

/-- Behind a letter the `Σ` ends a word, and alone it does not. -/
theorem Letter.changed_behind
    (isLetter : table.Letter letter lower)
    (firstIgnored : table.AllIgnorable first)
    (notCased : table.thenCased last = false) :
    table.lowercaseFrom [] (first ++ 'Σ' :: last) ≠
      table.lowercaseWithin [letter] [] (first ++ 'Σ' :: last) := by
  rw [table.lowercaseFrom_eq, ne_eq, table.lowercaseWithin_eq_iff]
  intro same
  have here := same first last rfl
  have reversed := AllIgnorable.reverse_iff.mpr firstIgnored
  have alone : table.thenCased first.reverse = false := reversed.thenCased
  have within : table.thenCased (first.reverse ++ [letter]) = true := by
    rw [reversed.thenCased_append]
    exact thenCased_letter isLetter.cased isLetter.notIgnorable []
  rw [List.append_nil, List.append_nil, endsWord_eq_thenCased,
    endsWord_eq_thenCased, alone, within, notCased] at here
  cases here

/-- Before a letter the `Σ` does not end a word, and alone it does. -/
theorem Letter.changed_before
    (isLetter : table.Letter letter lower)
    (cased : table.thenCased first.reverse = true)
    (lastIgnored : table.AllIgnorable last) :
    table.lowercaseFrom [] (first ++ 'Σ' :: last) ≠
      table.lowercaseWithin [] [letter] (first ++ 'Σ' :: last) := by
  rw [table.lowercaseFrom_eq, ne_eq, table.lowercaseWithin_eq_iff]
  intro same
  have here := same first last rfl
  have alone : table.thenCased last = false := lastIgnored.thenCased
  have within : table.thenCased (last ++ [letter]) = true := by
    rw [lastIgnored.thenCased_append]
    exact thenCased_letter isLetter.cased isLetter.notIgnorable []
  rw [List.append_nil, List.append_nil, endsWord_eq_thenCased,
    endsWord_eq_thenCased, cased, alone, within] at here
  cases here

theorem length_lowercaseFrom_within
    (before behind text : List Char) :
    (table.lowercaseFrom [] text).length =
      (table.lowercaseWithin before behind text).length := by
  rw [table.lowercaseFrom_eq]
  exact table.length_lowercaseWithin_eq _ _ _ _ _

theorem Letter.missing_behind
    {text : List Char} (isLetter : table.Letter letter lower)
    (changed :
      table.lowercaseFrom [] text ≠ table.lowercaseWithin [letter] [] text)
    (notFirst : (table.lowercaseFrom [] text).head? ≠ some lower) :
    ¬ table.lowercaseFrom [] text <:+:
        table.lowercaseFrom [] (letter :: text) := by
  rw [LowercaseTable.lowercaseFrom, isLetter.lowercaseChar_eq,
    List.singleton_append, table.lowercaseFrom_eq [letter]]
  exact
    not_isInfix_cons (length_lowercaseFrom_within [letter] [] text) changed
      notFirst

theorem Letter.missing_before
    {text : List Char} (isLetter : table.Letter letter lower)
    (changed :
      table.lowercaseFrom [] text ≠ table.lowercaseWithin [] [letter] text)
    (notLast : (table.lowercaseFrom [] text).getLast? ≠ some lower) :
    ¬ table.lowercaseFrom [] text <:+:
        table.lowercaseFrom [] (text ++ [letter]) := by
  rw [table.lowercaseFrom_append, LowercaseTable.lowercaseFrom,
    isLetter.lowercaseChar_eq, LowercaseTable.lowercaseFrom, List.append_nil]
  exact
    not_isInfix_concat (length_lowercaseFrom_within [] [letter] text) changed
      notLast

end Missing

/-- A text with a `Σ` that is not fixed is missed in some text of one unit
more that it occurs in. -/
theorem exists_missing
    {text : List Char} (notFixed : ¬ table.FixedSigmas text) :
    ∃ hay,
      text <:+: hay ∧
        (Utf16.encode hay).length = (Utf16.encode text).length + 1 ∧
        ¬ table.lowercaseFrom [] text <:+: table.lowercaseFrom [] hay := by
  unfold FixedSigmas at notFixed
  push Not at notFixed
  obtain ⟨first, last, rfl, reached⟩ := notFixed
  by_cases atFront : table.AllIgnorable first ∧ table.thenCased last = false
  · obtain ⟨letter, lower, isLetter, notFirst⟩ :=
      table.exists_letter_ne
        (table.lowercaseFrom [] (first ++ 'Σ' :: last)).head?
    have changed := isLetter.changed_behind atFront.1 atFront.2
    refine
      ⟨letter :: (first ++ 'Σ' :: last), (List.suffix_cons _ _).isInfix, ?_,
        isLetter.missing_behind changed notFirst⟩
    rw [Utf16.encode_cons, List.length_append, isLetter.oneUnit, Nat.add_comm]
  · obtain ⟨letter, lower, isLetter, notLast⟩ :=
      table.exists_letter_ne
        (table.lowercaseFrom [] (first ++ 'Σ' :: last)).getLast?
    obtain ⟨cased, lastIgnored⟩ :=
      reached fun ignored notCased => atFront ⟨ignored, notCased⟩
    have changed := isLetter.changed_before cased lastIgnored
    refine
      ⟨first ++ 'Σ' :: last ++ [letter], (List.prefix_append _ _).isInfix,
        ?_, isLetter.missing_before changed notLast⟩
    rw [Utf16.encode_append, List.length_append, Utf16.encode_cons,
      List.length_append, isLetter.oneUnit]
    rfl

end SigmaTable

/-! ## Searching without case -/

namespace WduUnicodeString

theorem contains_eq_true_iff
    {toLowercase : String → String} {string needle : WduUnicodeString}
    {caseInsensitive : Bool} {memory : Memory} :
    string.contains toLowercase needle caseInsensitive memory = true ↔
      needle.bytes ≤ string.bytes ∧
        needle.searched toLowercase caseInsensitive memory <:+:
          string.searched toLowercase caseInsensitive memory := by
  rw [contains, ← containsText_iff, ← UInt16.not_lt]
  by_cases shortcut : string.bytes < needle.bytes
  · rw [if_pos shortcut]
    exact iff_of_false Bool.false_ne_true fun found => found.1 shortcut
  · rw [if_neg shortcut]
    exact (and_iff_right shortcut).symm

/-- Wherever the needle is found with its case, it is found without. -/
def FoldsCase (toLowercase : String → String) (needle : WduUnicodeString)
    (memory : Memory) : Prop :=
  ∀ (string : WduUnicodeString) (other : Memory),
    needle.asSlice other = needle.asSlice memory →
      string.contains toLowercase needle false other = true →
        string.contains toLowercase needle true other = true

/-- A string that the longest needle occurs in is the needle. -/
theorem display_eq_of_longest
    {string needle : WduUnicodeString} {memory : Memory}
    (longest : 0x7FFF ≤ (needle.asSlice memory).length)
    (occurs :
      (needle.display memory).toList <:+: (string.display memory).toList) :
    (needle.display memory).toList = (string.display memory).toList := by
  have units := (Utf16.encode_isInfix_iff _ _).mpr occurs
  have lengths := units.length_le
  have bounded := half_lt string.bytes
  apply Utf16.encode_injective
  apply units.eq_of_length
  rw [length_encode_display, length_encode_display] at lengths ⊢
  rw [length_asSlice string] at lengths ⊢
  have most := Nat.le_of_lt_succ bounded
  exact Nat.le_antisymm lengths (Nat.le_trans most longest)

theorem foldsCase_of_fixed
    {table : SigmaTable} {needle : WduUnicodeString} {memory : Memory}
    (fixed : table.FixedSigmas (needle.display memory).toList) :
    needle.FoldsCase table.toLowercase memory := by
  intro string other same found
  obtain ⟨fits, occurs⟩ := contains_eq_true_iff.mp found
  refine contains_eq_true_iff.mpr ⟨fits, ?_⟩
  rw [toList_display, ← same, ← toList_display] at fixed
  rw [searched_lowercase, searched_lowercase]
  exact fixed.isInfix occurs

theorem foldsCase_of_longest
    (toLowercase : String → String) {needle : WduUnicodeString}
    {memory : Memory}
    (longest : 0x7FFF ≤ (needle.asSlice memory).length) :
    needle.FoldsCase toLowercase memory := by
  intro string other same found
  obtain ⟨fits, occurs⟩ := contains_eq_true_iff.mp found
  refine contains_eq_true_iff.mpr ⟨fits, ?_⟩
  rw [← same] at longest
  have texts := String.toList_inj.mp (display_eq_of_longest longest occurs)
  have lowered :
      needle.searched toLowercase true other =
        string.searched toLowercase true other :=
    congrArg (fun text => (toLowercase text).toList) texts
  rw [lowered]

theorem not_foldsCase
    {table : SigmaTable} {needle : WduUnicodeString} {memory : Memory}
    (notFixed : ¬ table.FixedSigmas (needle.display memory).toList)
    (shorter : (needle.asSlice memory).length < 0x7FFF) :
    ¬ needle.FoldsCase table.toLowercase memory := by
  intro folds
  obtain ⟨hay, occurs, longer, missing⟩ := table.exists_missing notFixed
  rw [length_encode_display] at longer
  have fits : (Utf16.encode hay).length < 0x8000 := by omega
  obtain ⟨string, other, kept, held, length⟩ :=
    needle.exists_beside memory fits
  have bytes : needle.bytes ≤ string.bytes := by
    apply UInt16.le_iff_toNat_le.mpr
    rw [length, longer, length_asSlice]
    exact Nat.le_of_lt (lt_two_mul_half_succ needle.bytes)
  have needleText :
      (needle.display other).toList = (needle.display memory).toList := by
    rw [toList_display, toList_display, kept]
  have text : (string.display other).toList = hay := by
    rw [toList_display, held, Utf16.decode_encode]
  have found :
      string.contains table.toLowercase needle false other = true := by
    refine contains_eq_true_iff.mpr ⟨bytes, ?_⟩
    change (needle.display other).toList <:+: (string.display other).toList
    rw [needleText, text]
    exact occurs
  obtain ⟨-, lowered⟩ :=
    contains_eq_true_iff.mp (folds string other kept found)
  rw [searched_lowercase, searched_lowercase, needleText, text] at lowered
  exact missing lowered

/-- Ignoring case only adds strings that the needle is found in exactly when
what is around the needle reaches none of its `Σ`, or no string is longer. -/
theorem foldsCase_iff
    (table : SigmaTable) (needle : WduUnicodeString) (memory : Memory) :
    needle.FoldsCase table.toLowercase memory ↔
      table.FixedSigmas (needle.display memory).toList ∨
        0x7FFF ≤ (needle.asSlice memory).length := by
  constructor
  · intro folds
    by_contra neither
    rw [not_or, Nat.not_le] at neither
    exact not_foldsCase neither.1 neither.2 folds
  · rintro (fixed | longest)
    · exact foldsCase_of_fixed fixed
    · exact foldsCase_of_longest table.toLowercase longest

/-! ## A missed piece -/

def greekCased (char : Char) : Bool :=
  decide (char ∈ ['A', 'B', 'a', 'b', 'Α', 'α', 'Σ', 'σ', 'ς'])

def greekIgnorable (char : Char) : Bool :=
  decide (char ∈ ['\'', '.', '\u0307'])

/-- The mappings are those of `dottedTable`. -/
def greekTable : SigmaTable where
  mapping := dottedTable.mapping
  endsWord before behind :=
    caseIgnorableThenCased greekCased greekIgnorable before &&
      !caseIgnorableThenCased greekCased greekIgnorable behind
  dotted := dottedTable.dotted
  keepsUnits := dottedTable.keepsUnits
  settled := dottedTable.settled
  sigmas := dottedTable.sigmas
  cased := greekCased
  ignorable := greekIgnorable
  endsWord_eq _ _ := rfl
  letterA := by decide
  letterB := by decide

/-- `ΑΣΑ` at `0x1000` -/
def greekMemory : Memory :=
  { filledMemory with
    units := fun address => if address = 0x1002 then 0x3A3 else 0x391 }

/-- `ΑΣ` is cut out of `ΑΣΑ`, and is not found without case: its lower case is
`ας`, and that of `ΑΣΑ` is `ασα`. -/
theorem piece_missed :
    contains greekTable.toLowercase ⟨⟨6, 6, 0x1000⟩, none⟩
        ⟨⟨4, 4, 0x1000⟩, none⟩ false greekMemory =
      true ∧
      contains greekTable.toLowercase ⟨⟨6, 6, 0x1000⟩, none⟩
          ⟨⟨4, 4, 0x1000⟩, none⟩ true greekMemory =
        false := by
  constructor
  · rw [contains_eq_true_iff]
    decide
  · rw [← Bool.not_eq_true, contains_eq_true_iff]
    decide

end WduUnicodeString

end WinDrvUtils
