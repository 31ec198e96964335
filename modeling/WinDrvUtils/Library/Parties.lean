import Mathlib.Logic.Function.Basic
import Mathlib.Data.List.Perm.Basic

/-!
# Parties that take turns

Any number of parties take turns; `parties` gives the local state of each.

`busy` tells in which local states a party is inside a section that nobody
else may enter, and `OnlyBusy busy parties who` says that nobody is busy but
the party that `who` names, if it names one.

`holds` gives the token that a party holds in a local state, and
`Holdings holds parties holdings` says that `holdings` lists who holds what.
-/

universe u v w

namespace Parties

variable {Party : Type u} {Local : Type v} {Token : Type w}

def OnlyBusy (busy : Local → Bool) (parties : Party → Local)
    (who : Option Party) : Prop :=
  ∀ party, busy (parties party) = true → who = some party

variable {busy : Local → Bool} {parties : Party → Local}
    {who : Option Party} {party : Party}

theorem OnlyBusy.idle
    (only : OnlyBusy busy parties none) (party : Party) :
    busy (parties party) = false := by
  cases state : busy (parties party) with
  | false =>
      rfl
  | true =>
      cases only party state

theorem OnlyBusy.eq
    {other : Party}
    (only : OnlyBusy busy parties (some party))
    (state : busy (parties other) = true) :
    other = party :=
  (Option.some.inj (only other state)).symm

theorem OnlyBusy.not_none
    (state : busy (parties party) = true) :
    ¬ OnlyBusy busy parties none := by
  intro only
  cases only party state

/-- A party that is busy is the one that `who` names. -/
theorem OnlyBusy.of_state
    {state : Local} (only : OnlyBusy busy parties who)
    (here : parties party = state) (busyHere : busy state = true) :
    OnlyBusy busy parties (some party) := by
  have named : who = some party := by
    apply only party
    rw [here]
    exact busyHere
  rw [named] at only
  exact only

theorem OnlyBusy.calm_of_ne
    {other : Party} (only : OnlyBusy busy parties (some party))
    (different : other ≠ party) :
    busy (parties other) = false := by
  cases state : busy (parties other) with
  | false =>
      rfl
  | true =>
      exact absurd (only.eq state) different

theorem OnlyBusy.weaken
    (only : OnlyBusy busy parties none) (who : Option Party) :
    OnlyBusy busy parties who := by
  intro party state
  cases only party state

variable [DecidableEq Party] {state : Local}

/-- Whoever is busy after a party has come to rest is another one, and was busy
before. -/
theorem busy_of_update
    {other : Party} (calm : busy state = false)
    (busyOther :
      busy (Function.update parties party state other) = true) :
    other ≠ party ∧ busy (parties other) = true := by
  by_cases same : other = party
  · rw [same, Function.update_self, calm] at busyOther
    cases busyOther
  · rw [Function.update_of_ne same] at busyOther
    exact ⟨same, busyOther⟩

theorem OnlyBusy.update_idle
    (only : OnlyBusy busy parties who) (calm : busy state = false) :
    OnlyBusy busy (Function.update parties party state) who := by
  intro other busyOther
  exact only other (busy_of_update calm busyOther).2

theorem OnlyBusy.leave
    (only : OnlyBusy busy parties (some party)) (calm : busy state = false) :
    OnlyBusy busy (Function.update parties party state) none := by
  intro other busyOther
  obtain ⟨different, before⟩ := busy_of_update calm busyOther
  exact absurd (only.eq before) different

/-- The only busy party moves on, or a party enters while nobody is busy. -/
theorem OnlyBusy.update
    (only : OnlyBusy busy parties (some party)) :
    OnlyBusy busy (Function.update parties party state) (some party) := by
  intro other busyOther
  by_cases same : other = party
  · rw [same]
  · rw [Function.update_of_ne same] at busyOther
    exact only other busyOther

/-- The busy party may go on to any state. -/
theorem OnlyBusy.stay
    {before : Local} (only : OnlyBusy busy parties who)
    (here : parties party = before) (busyHere : busy before = true) :
    OnlyBusy busy (Function.update parties party state) who := by
  have alone := only.of_state here busyHere
  have named : who = some party := by
    apply only party
    rw [here]
    exact busyHere
  rw [named]
  exact alone.update

/-- What calm parties have anyway and the busy one has after its step, all of
them have. -/
theorem OnlyBusy.forall_update
    (property : Party → Local → Prop)
    (only : OnlyBusy busy parties (some party))
    (calm : ∀ other resting,
      busy resting = false → property other resting)
    (here : property party state) :
    ∀ other, property other (Function.update parties party state other) := by
  apply (Function.forall_update_iff parties property).mpr
  refine ⟨here, fun other different => ?_⟩
  have calmOther := only.calm_of_ne different
  exact calm other (parties other) calmOther

/-! ## Holdings -/

/-- `holdings` lists each party that holds a token, once, with its token. -/
structure Holdings (holds : Local → Option Token) (parties : Party → Local)
    (holdings : List (Party × Token)) : Prop where
  nodup : holdings.Nodup
  mem_iff :
    ∀ party token,
      (party, token) ∈ holdings ↔ holds (parties party) = some token

namespace Holdings

variable {holds : Local → Option Token} {holdings : List (Party × Token)}
    {token : Token}

omit [DecidableEq Party] in
theorem eq_nil
    (listed : Holdings holds parties holdings)
    (none : ∀ party, holds (parties party) = none) :
    holdings = [] := by
  apply List.eq_nil_iff_forall_not_mem.mpr
  intro hold member
  obtain ⟨party, token⟩ := hold
  have held := (listed.mem_iff party token).mp member
  rw [none party] at held
  cases held

omit [DecidableEq Party] in
theorem nil (none : ∀ party, holds (parties party) = none) :
    Holdings holds parties [] where
  nodup := List.nodup_nil
  mem_iff party token := by
    rw [none party]
    simp

theorem keep
    (listed : Holdings holds parties holdings)
    (same : holds state = holds (parties party)) :
    Holdings holds (Function.update parties party state) holdings where
  nodup := listed.nodup
  mem_iff other token := by
    rw [listed.mem_iff]
    by_cases equal : other = party
    · subst equal
      rw [Function.update_self, same]
    · rw [Function.update_of_ne equal]

theorem gain
    (listed : Holdings holds parties holdings)
    (nothing : holds (parties party) = none)
    (gained : holds state = some token) :
    Holdings holds (Function.update parties party state)
      ((party, token) :: holdings) where
  nodup := by
    refine List.nodup_cons.mpr ⟨?_, listed.nodup⟩
    rw [listed.mem_iff, nothing]
    simp
  mem_iff other otherToken := by
    rw [List.mem_cons, Prod.mk.injEq, listed.mem_iff]
    by_cases equal : other = party
    · subst equal
      rw [Function.update_self, gained, nothing]
      simp [eq_comm]
    · rw [Function.update_of_ne equal]
      simp [equal]

theorem lose
    [DecidableEq Token]
    (listed : Holdings holds parties holdings)
    (held : holds (parties party) = some token)
    (nothing : holds state = none) :
    Holdings holds (Function.update parties party state)
      (holdings.erase (party, token)) where
  nodup := listed.nodup.erase _
  mem_iff other otherToken := by
    rw [listed.nodup.mem_erase_iff, listed.mem_iff]
    by_cases equal : other = party
    · subst equal
      rw [Function.update_self, held, nothing]
      simp [eq_comm]
    · rw [Function.update_of_ne equal]
      simp [equal]

end Holdings

end Parties
