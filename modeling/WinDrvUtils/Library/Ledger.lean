import Mathlib.Data.List.Perm.Basic
import Mathlib.Data.List.Count

/-!
# Ledgers of issued and released tokens

A ledger accounts for tokens that one party issues and another must release
exactly once: blocks of an allocator, handles of a registration, pages of a
lock. Releasing a token that is not live is recorded as `stray` and changes
nothing else.

The field `balance` is the accounting law: what was issued is what was
released together with what is still live. So every token has been released
exactly once when nothing is live (`count_eq_of_live_nil`), and nothing else
has been released when nothing is stray. `HeldBy` lists the holders of what
is live.
-/

universe u

structure Ledger (Token : Type u) where
  issued : List Token
  released : List Token
  live : List Token
  /-- Release requests for a token that was not live. -/
  stray : List Token
  balance : issued.Perm (released ++ live)

namespace Ledger

variable {Token : Type u}

def empty : Ledger Token :=
  ⟨[], [], [], [], List.Perm.nil⟩

def issue (ledger : Ledger Token) (token : Token) : Ledger Token where
  issued := token :: ledger.issued
  released := ledger.released
  live := token :: ledger.live
  stray := ledger.stray
  balance :=
    (ledger.balance.cons token).trans List.perm_middle.symm

/-- The live tokens are exactly those that `held` lists, and no release ever
went astray. -/
def HeldBy (ledger : Ledger Token) (held : List Token) : Prop :=
  ledger.stray = [] ∧ ledger.live.Perm held

@[simp]
theorem issue_live (ledger : Ledger Token) (token : Token) :
    (ledger.issue token).live = token :: ledger.live := rfl

@[simp]
theorem issue_issued (ledger : Ledger Token) (token : Token) :
    (ledger.issue token).issued = token :: ledger.issued := rfl

theorem mem_issued_of_live
    {ledger : Ledger Token} {token : Token}
    (live : token ∈ ledger.live) : token ∈ ledger.issued :=
  ledger.balance.mem_iff.mpr (List.mem_append_right _ live)

theorem perm_of_live_nil
    {ledger : Ledger Token} (none : ledger.live = []) :
    ledger.issued.Perm ledger.released := by
  have balance := ledger.balance
  rw [none, List.append_nil] at balance
  exact balance

theorem heldBy_empty : (empty : Ledger Token).HeldBy [] :=
  ⟨rfl, List.Perm.nil⟩

theorem HeldBy.issue
    {ledger : Ledger Token} {held : List Token}
    (owned : ledger.HeldBy held) (token : Token) :
    (ledger.issue token).HeldBy (token :: held) :=
  ⟨owned.1, owned.2.cons token⟩

theorem HeldBy.perm
    {ledger : Ledger Token} {held other : List Token}
    (owned : ledger.HeldBy held) (same : held.Perm other) :
    ledger.HeldBy other :=
  ⟨owned.1, owned.2.trans same⟩

theorem HeldBy.iff_perm
    {ledger : Ledger Token} {held other : List Token}
    (owned : ledger.HeldBy held) :
    ledger.HeldBy other ↔ held.Perm other := by
  constructor
  · intro again
    exact owned.2.symm.trans again.2
  · exact owned.perm

theorem append_perm_iff_nil (extra held : List Token) :
    (extra ++ held).Perm held ↔ extra = [] := by
  have cancelled := @List.perm_append_right_iff _ extra [] held
  rw [List.nil_append, List.perm_nil] at cancelled
  exact cancelled

/-- Held by `extra` and `held` together, the live tokens are held by `held`
alone only if there is nothing extra. -/
theorem HeldBy.iff_nil_of_append
    {ledger : Ledger Token} {extra held : List Token}
    (owned : ledger.HeldBy (extra ++ held)) :
    ledger.HeldBy held ↔ extra = [] := by
  rw [owned.iff_perm]
  exact append_perm_iff_nil extra held

/-- Held by `held`, the live tokens are held by `extra` as well only if there
is nothing extra. -/
theorem HeldBy.append_iff_nil
    {ledger : Ledger Token} {extra held : List Token}
    (owned : ledger.HeldBy held) :
    ledger.HeldBy (extra ++ held) ↔ extra = [] := by
  rw [owned.iff_perm, List.perm_comm]
  exact append_perm_iff_nil extra held

theorem HeldBy.mem_iff
    {ledger : Ledger Token} {held : List Token}
    (owned : ledger.HeldBy held) (token : Token) :
    token ∈ ledger.live ↔ token ∈ held :=
  owned.2.mem_iff

variable [DecidableEq Token]

def release (ledger : Ledger Token) (token : Token) : Ledger Token :=
  if member : token ∈ ledger.live then
    { issued := ledger.issued
      released := token :: ledger.released
      live := ledger.live.erase token
      stray := ledger.stray
      balance := by
        have exposed : ledger.live.Perm (token :: ledger.live.erase token) :=
          List.perm_cons_erase member
        exact
          ledger.balance.trans <|
            (exposed.append_left ledger.released).trans List.perm_middle }
  else
    { ledger with stray := token :: ledger.stray }

/-! ## The accounts after one operation -/

theorem release_live_of_mem
    {ledger : Ledger Token} {token : Token}
    (member : token ∈ ledger.live) :
    (ledger.release token).live = ledger.live.erase token := by
  simp [release, member]

theorem release_stray_of_mem
    {ledger : Ledger Token} {token : Token}
    (member : token ∈ ledger.live) :
    (ledger.release token).stray = ledger.stray := by
  simp [release, member]

theorem release_stray_of_not_mem
    {ledger : Ledger Token} {token : Token}
    (absent : token ∉ ledger.live) :
    (ledger.release token).stray = token :: ledger.stray := by
  simp [release, absent]

theorem release_live_of_not_mem
    {ledger : Ledger Token} {token : Token}
    (absent : token ∉ ledger.live) :
    (ledger.release token).live = ledger.live := by
  simp [release, absent]

@[simp]
theorem release_issued (ledger : Ledger Token) (token : Token) :
    (ledger.release token).issued = ledger.issued := by
  unfold release
  split <;> rfl

theorem mem_live_release_of_ne
    {ledger : Ledger Token} {token other : Token}
    (member : other ∈ ledger.live) (different : other ≠ token) :
    other ∈ (ledger.release token).live := by
  by_cases live : token ∈ ledger.live
  · rw [release_live_of_mem live]
    exact (List.mem_erase_of_ne different).mpr member
  · rw [release_live_of_not_mem live]
    exact member

/-- A release goes astray exactly when its token is not live. -/
theorem mem_live_of_release_clean
    {ledger : Ledger Token} {token : Token}
    (clean : (ledger.release token).stray = []) :
    token ∈ ledger.live := by
  by_contra absent
  rw [release_stray_of_not_mem absent] at clean
  exact List.cons_ne_nil _ _ clean

/-! ## Exactly once -/

/-- Once nothing is live, each token was released as often as it was
issued. -/
theorem count_eq_of_live_nil
    {ledger : Ledger Token} (none : ledger.live = []) (token : Token) :
    ledger.released.count token = ledger.issued.count token :=
  ((perm_of_live_nil none).count_eq token).symm

/-! ## A holder of the live tokens -/

theorem HeldBy.release
    {ledger : Ledger Token} {held : List Token} {token : Token}
    (owned : ledger.HeldBy held) (member : token ∈ held) :
    (ledger.release token).HeldBy (held.erase token) := by
  have live : token ∈ ledger.live := owned.2.mem_iff.mpr member
  refine ⟨?_, ?_⟩
  · rw [release_stray_of_mem live]
    exact owned.1
  · rw [release_live_of_mem live]
    exact owned.2.erase token

theorem HeldBy.release_of_perm
    {ledger : Ledger Token} {held rest : List Token} {token : Token}
    (owned : ledger.HeldBy held) (split : held.Perm (token :: rest)) :
    (ledger.release token).HeldBy rest := by
  simpa using (owned.perm split).release List.mem_cons_self

/-- Some of the tokens are released, one after another. -/
theorem HeldBy.foldl_release
    {ledger : Ledger Token} {tokens rest : List Token}
    (owned : ledger.HeldBy (tokens ++ rest)) :
    (tokens.foldl Ledger.release ledger).HeldBy rest := by
  induction tokens generalizing ledger with
  | nil => exact owned
  | cons token tokens inductionHypothesis =>
      rw [List.foldl_cons]
      exact inductionHypothesis (owned.release_of_perm (List.Perm.refl _))

/-- A release that no holder takes part in breaks the accounts: its token is
not live, or is missed by the one that holds it. -/
theorem HeldBy.not_release
    {ledger : Ledger Token} {held : List Token}
    (owned : ledger.HeldBy held) (token : Token) :
    ¬ (ledger.release token).HeldBy held := by
  intro again
  have live := mem_live_of_release_clean again.1
  have lengths := again.2.length_eq
  rw [release_live_of_mem live, ← owned.2.length_eq,
    List.length_erase_of_mem live] at lengths
  have some := List.length_pos_of_mem live
  omega

/-! ## An owner with one field -/

/-- An owner that can remember one token, in `slot`, keeps proper accounts:
it never released a token that was not live, every live token is the one in
its slot, and once it is `gone` every token has been released as often as it
was issued. -/
structure TrackedBy (ledger : Ledger Token) (slot : Option Token)
    (gone : Bool) : Prop where
  clean : ledger.stray = []
  named : ∀ token ∈ ledger.live, slot = some token
  settled : gone = true →
    ledger.live = [] ∧
      ∀ token, ledger.released.count token = ledger.issued.count token

theorem TrackedBy.of_heldBy
    {ledger : Ledger Token} {held : List Token} {slot : Option Token}
    {gone : Bool}
    (owned : ledger.HeldBy held)
    (named : ∀ token ∈ held, slot = some token)
    (none : gone = true → held = []) :
    ledger.TrackedBy slot gone where
  clean := owned.1
  named token member := named token ((owned.mem_iff token).mp member)
  settled left := by
    have nothing : ledger.live = [] := by
      have same := owned.2
      rw [none left] at same
      exact same.eq_nil
    exact ⟨nothing, count_eq_of_live_nil nothing⟩

/-- A second live token is lost to an owner with one field. -/
theorem TrackedBy.live_nil_of_issue
    {ledger : Ledger Token} {token : Token} {gone : Bool}
    (tracked : (ledger.issue token).TrackedBy (some token) gone)
    (fresh : token ∉ ledger.live) :
    ledger.live = [] := by
  apply List.eq_nil_iff_forall_not_mem.mpr
  intro other member
  have same : token = other :=
    Option.some.inj (tracked.named other (List.mem_cons_of_mem _ member))
  exact fresh (same ▸ member)

/-- A release that leaves the accounts proper was of a live token. -/
theorem TrackedBy.mem_live_of_release
    {ledger : Ledger Token} {token : Token} {slot : Option Token}
    {gone : Bool}
    (tracked : (ledger.release token).TrackedBy slot gone) :
    token ∈ ledger.live :=
  mem_live_of_release_clean tracked.clean

end Ledger
