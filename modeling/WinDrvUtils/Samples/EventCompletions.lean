import WinDrvUtils.Samples.EventClaims

/-!
# Each request is completed once

The fate of a request in each step of the event driver, and from it the exact
condition on the runs in which no request is completed twice.
-/

namespace WinDrvUtils

namespace EventDriver

open StepSystem

namespace System

section

variable {system next : System} {irp : Address}

/-! ## The request -/

/-- A request is answered before its cancel routine is set. -/
theorem Fate.returning
    {event : Event} {moved : Address} {file : Option Address}
    {status : NTSTATUS} (invariant : system.Invariant)
    (handed : system.Handed irp)
    (changes :
      system.Changes event
        (system.setCall moved (.returning file status)))
    (other : ∀ box, event ≠ .enqueue irp box)
    (calm : (system.calls moved).isCalm = true) :
    Fate system event (system.setCall moved (.returning file status))
      irp := by
  by_cases same : irp = moved
  · subst same
    obtain ⟨cancellation, unarmed⟩ := handed.calm calm
    exact
      .answered invariant handed (Call.not_isPast_of_isCalm calm)
        (fun _ => cancellation)
        (congrArg Call.isPast (setCall_self system irp _)) unarmed
        (fun _ member _ => member) rfl (fun _ => id) (fun _ => rfl) rfl
  · exact
      .apart handed changes other (Function.update_of_ne same _ _)
        (.refl _) rfl (fun _ => id) fun _ => le_rfl

theorem dispatch_fate
    {moved file : Address} {request : Request}
    (invariant : system.Invariant) (handed : system.Handed irp)
    (changes : system.Changes (.dispatch moved file request) next)
    (effect : Effect system (.dispatch moved file request) next) :
    Fate system (.dispatch moved file request) next irp := by
  have other : ∀ box, Event.dispatch moved file request ≠ .enqueue irp box :=
    fun _ same => Event.noConfusion same
  cases effect with
  | entered idle _ =>
      refine
        .quiet handed changes other
          (.of_call rfl rfl rfl (cleanup_update _ _ · _) rfl)
          (calm_update fun _ => ?_) id
      rw [idle]
      rfl
  | turnedAway idle _ =>
      refine .returning invariant handed changes other ?_
      rw [idle]
      rfl

theorem handle_fate
    {moved : Address} {answer : Answer}
    (invariant : system.Invariant) (handed : system.Handed irp)
    (changes : system.Changes (.handle moved answer) next)
    (effect : Effect system (.handle moved answer) next) :
    Fate system (.handle moved answer) next irp := by
  have other : ∀ box, Event.handle moved answer ≠ .enqueue irp box :=
    fun _ same => Event.noConfusion same
  cases effect with
  | rejected entered =>
      refine .returning invariant handed changes other ?_
      rw [entered]
      rfl
  | @armed _ _ file request dueTime entered =>
      by_cases same : irp = moved
      · subst same
        have calm : (system.calls irp).isCalm = true := by
          rw [entered]
          rfl
        have unclaimed := handed.unclaimed invariant calm
        obtain ⟨waits, fresh⟩ :=
          handed.early (Call.not_isPast_of_isCalm calm)
        have completions :
            ((system.setPacket irp
              ((system.packets irp).armed answer.context)).setCall irp
              (.armed file armedWrapper dueTime)).completions irp =
              system.completions irp :=
          congrArg (fun packet => packet.irp.completions)
            (Function.update_self irp _ system.packets)
        have recedes :
            system.Recedes
              ((system.setPacket irp
                ((system.packets irp).armed answer.context)).setCall irp
                (.armed file armedWrapper dueTime)) irp :=
          .of_call rfl rfl rfl (fun _ => rfl) completions
        refine
          .kept (fun _ => recedes.claims) recedes.cleanups
            recedes.completions
            (.of_waits (fun _ => recedes.unclaimed unclaimed) ?_
              (recedes.waits waits) (completions.trans fresh))
        exact congrArg Call.isCalm (setCall_self _ irp _)
      · exact
          .apart handed changes other (Function.update_of_ne same _ _)
            (setPacket_packets same) rfl (fun _ => id) fun _ => le_rfl
  | referenced entered =>
      refine
        .quiet handed changes other
          ⟨?_, rfl, fun _ => id, fun _ => le_rfl, rfl⟩
          (calm_update fun _ => ?_) id
      · intro completes
        by_cases same : irp = moved
        · subst same
          simp only [setCall, Function.update_self] at completes
          cases completes
        · simp only [setCall, Function.update_of_ne same] at completes
          exact completes
      · rw [entered]
        rfl

theorem enqueue_fate
    {moved box : Address} (invariant : system.Invariant)
    (handed : system.Handed irp)
    (changes : system.Changes (.enqueue moved box) next)
    (effect : Effect system (.enqueue moved box) next) :
    Fate system (.enqueue moved box) next irp := by
  by_cases same : irp = moved
  · subst same
    cases effect with
    | @refused _ _ file wrapper dueTime armed cancelled _ =>
        have early : (system.calls irp).isPast = false := by
          rw [armed]
          rfl
        have weaker := disarm_weaker system irp irp wrapper
        refine
          .answered invariant handed early
            (fun met => met file wrapper dueTime armed cancelled)
            (congrArg Call.isPast (setCall_self _ irp _))
            (disarm_unarmed system irp wrapper)
            (fun _ member _ => member) rfl (fun _ => id) (fun _ => rfl) ?_
        exact congrArg Irp.completions weaker.irp
    | @pushedIrp _ _ file wrapper dueTime middle _ armed calm =>
        have early : (system.calls irp).isPast = false := by
          rw [armed]
          rfl
        obtain ⟨waits, fresh⟩ := handed.early early
        have weaker := middle_weaker calm irp
        have files := middle_files calm
        have notes := middle_notes calm
        have packet :
            (middle.pushIrp irp box file wrapper dueTime).packets irp =
              { middle.packets irp with
                irp := (middle.packets irp).irp.markPending } :=
          Function.update_self irp _ middle.packets
        have call :
            (middle.pushIrp irp box file wrapper dueTime).calls irp =
              .returning (some file) statusPending :=
          setCall_self _ irp _
        have recedes :
            system.Recedes (middle.pushIrp irp box file wrapper dueTime)
              irp := by
          refine ⟨?_, ?_, fun other completes => ?_, ?_, ?_⟩
          · rw [call]
            intro completes
            cases completes
          · exact
              congrFun (congrArg Notifications.cancellations notes) irp
          · rw [← notes]
            exact
              phases_update Phase.completes (Or.inl rfl) other irp completes
          · show ∀ file, (middle.files file).cleanup.irps.count irp ≤ _
            rw [files]
            exact fun _ => le_rfl
          · unfold completions
            rw [packet, ← weaker.irp]
            rfl
        refine
          .kept (fun _ => recedes.claims) recedes.cleanups
            recedes.completions
            (.of_waits (fun still => ?_) ?_ (recedes.waits waits)
              (recedes.completions.trans fresh))
        · unfold isArmed at still
          rw [packet] at still
          exact recedes.unclaimed (handed.armed (weaker.routine still))
        · rw [call]
          rfl
    | @pushedEvent _ _ file event dueTime _ referenced =>
        have calm : (system.calls irp).isCalm = true := by
          rw [referenced]
          rfl
        obtain ⟨cancellation, unarmed⟩ := handed.calm calm
        refine
          .answered invariant handed (Call.not_isPast_of_isCalm calm)
            (fun _ => cancellation)
            (congrArg Call.isPast (setCall_self _ irp _)) unarmed ?_ rfl
            (fun other completes => ?_) (fun _ => rfl) rfl
        · intro record member based
          rcases List.mem_append.mp member with before | last
          · exact before
          · rw [List.mem_singleton.mp last] at based
            cases based
        · exact
            phases_update Phase.completes (Or.inl rfl) other irp completes
  · have other : ∀ place, Event.enqueue moved box ≠ .enqueue irp place := by
      intro place equal
      cases equal
      exact same rfl
    cases effect with
    | @refused _ _ _ wrapper _ _ _ _ =>
        exact
          .apart handed changes other (Function.update_of_ne same _ _)
            (disarm_weaker system moved irp wrapper) rfl (fun _ => id)
            fun _ => le_rfl
    | @pushedIrp _ _ file wrapper dueTime middle _ _ calm =>
        have notes := middle_notes calm
        have weaker := middle_weaker calm irp
        have call :
            (middle.pushIrp moved box file wrapper dueTime).calls irp =
              middle.calls irp :=
          Function.update_of_ne same _ _
        refine
          .apart handed changes other
            (call.trans (congrFun (middle_calls calm) irp))
            (weaker.trans (setPacket_packets same))
            (congrFun (congrArg Notifications.cancellations notes) irp)
            (fun place completes => ?_) ?_
        · rw [← notes]
          exact
            phases_update Phase.completes (Or.inl rfl) place irp completes
        · show ∀ file, (middle.files file).cleanup.irps.count irp ≤ _
          rw [middle_files calm]
          exact fun _ => le_rfl
    | pushedEvent _ _ =>
        exact
          .apart handed changes other (Function.update_of_ne same _ _)
            (.refl _) rfl
            (fun place => phases_update Phase.completes (Or.inl rfl) place irp)
            fun _ => le_rfl

theorem ret_fate
    {moved : Address} (handed : system.Handed irp)
    (changes : system.Changes (.ret moved) next)
    (effect : Effect system (.ret moved) next) :
    Fate system (.ret moved) next irp := by
  have other : ∀ box, Event.ret moved ≠ .enqueue irp box :=
    fun _ same => Event.noConfusion same
  cases effect with
  | @pending _ file returning =>
      obtain ⟨notes, calls, packets⟩ :=
        release_frame (system.setCall moved .returned) moved file
      refine
        .quiet handed changes other
          (.of_call calls rfl notes (release_cleanup _ _ file) ?_) ?_ ?_
      · unfold completions
        rw [packets]
        rfl
      · rw [calls]
        exact calm_update fun calm => by cases calm
      · unfold isArmed
        rw [packets]
        exact id
  | @returned _ file status returning completes =>
      obtain ⟨notes, calls, packets⟩ :=
        release_frame
          ((system.complete moved
            (WduIoStatus.newWithStatus status)).setCall moved .returned)
          moved file
      have cleanups :=
        release_cleanup
          ((system.complete moved
            (WduIoStatus.newWithStatus status)).setCall moved .returned)
          moved file
      by_cases same : irp = moved
      · subst same
        have claimed : system.Claims irp .request := by
          rw [Claims, returning]
          exact bne_iff_ne.mpr completes
        have gone :
            ∀ next : System,
              next.calls = Function.update system.calls irp .returned →
                ¬ next.Claims irp .request := by
          intro next calls claims
          rw [Claims, calls, Function.update_self] at claims
          cases claims
        refine
          .completed .request claimed (fun other claims => ?_)
            (fun _ => gone _ calls) (fun file => ?_) ?_ (.of_past ?_ ?_ ?_)
        · cases other with
          | request => exact absurd claims (gone _ calls)
          | cancelRoutine =>
              rw [Claims, notes] at claims
              exact claims
          | dpc box =>
              rw [Claims, notes] at claims
              exact claims
          | cleanup file =>
              rw [Claims, cleanups] at claims
              exact claims
        · rw [cleanups]
          exact le_rfl
        · unfold completions
          rw [packets]
          exact complete_completions system irp _
        · rw [calls]
          exact congrArg Call.isPast (setCall_self _ irp _)
        · unfold isArmed
          rw [packets]
          exact (complete_armed system irp irp _).trans (handed.unarmed claimed)
        · rw [notes]
          intro record member based
          have waits := (handed.entry record member based).1
          rw [Claims, waits.request] at claimed
          cases claimed
      · refine
          .apart handed changes other ?_ ?_ ?_ (fun box => ?_) fun file => ?_
        · rw [calls]
          exact Function.update_of_ne same _ _
        · rw [packets]
          exact setPacket_packets same
        · rw [notes]
          rfl
        · rw [notes]
          exact id
        · rw [cleanups]
          exact le_rfl

/-! ## The timer and its DPC -/

theorem expire_fate
    {box : Address} (handed : system.Handed irp)
    (changes : system.Changes (.expire box) next)
    (effect : Effect system (.expire box) next) :
    Fate system (.expire box) next irp := by
  have other : ∀ place, Event.expire box ≠ .enqueue irp place :=
    fun _ same => Event.noConfusion same
  cases effect with
  | expired _ =>
      exact
        .apart handed changes other rfl (.refl _) rfl
          (fun place => phases_update Phase.completes (Or.inl rfl) place irp)
          fun _ => le_rfl

theorem locate_fate
    {box : Address} (invariant : system.Invariant)
    (handed : system.Handed irp)
    (changes : system.Changes (.locate box) next)
    (effect : Effect system (.locate box) next) :
    Fate system (.locate box) next irp := by
  have other : ∀ place, Event.locate box ≠ .enqueue irp place :=
    fun _ same => Event.noConfusion same
  cases effect with
  | freedBox _ _ =>
      exact
        .apart handed changes other rfl (.refl _) rfl (fun _ => id)
          fun _ => le_rfl
  | missed _ _ =>
      exact
        .apart handed changes other rfl (.refl _) rfl
          (fun place => phases_update Phase.completes (Or.inl rfl) place irp)
          fun _ => le_rfl
  | @unset box moved wrapper place record _ _ _ _ =>
      exact
        .apart handed changes other rfl
          (disarm_weaker system moved irp wrapper) rfl
          (fun place => phases_update Phase.completes (Or.inl rfl) place irp)
          fun _ => le_rfl
  | signalled _ _ _ _ _ =>
      exact
        .apart handed changes other rfl (.refl _) rfl
          (fun place => phases_update Phase.completes (Or.inl rfl) place irp)
          fun _ => le_rfl
  | @found box moved wrapper place record queued here based _ =>
      have member := Notifications.mem_of_place here
      by_cases same : irp = moved
      · subst same
        have timer : (system.phases box).irp = some irp := by
          rw [queued]
          rfl
        have own :=
          invariant.paired box irp timer record member based
        have context :
            (system.phases record.box).context =
              some (.irpBased irp wrapper) := by
          rw [own, queued]
          rfl
        obtain ⟨waits, fresh⟩ := handed.entry record member based
        have noDpc :
            ∀ place, (system.phases place).completes ≠ some irp := by
          intro place completes
          have equal :=
            invariant.single place box irp (Phase.irp_of_completes completes)
              timer
          rw [equal, queued] at completes
          cases completes
        have weaker := disarm_weaker system irp irp wrapper
        refine
          .taken (.dpc box)
            (fun met =>
              .of_waits waits (fresh _ context)
                (met irp wrapper queued record member based) noDpc)
            (fun completer claims => ?_) (fun file => ?_)
            (congrArg Irp.completions weaker.irp)
            (.of_dpc invariant handed timer
              (disarm_unarmed system irp wrapper) rfl rfl rfl rfl rfl rfl)
        · cases completer with
          | request | cancelRoutine | cleanup _ => exact Or.inr claims
          | dpc place =>
              by_cases equal : place = box
              · rw [equal]
                exact Or.inl rfl
              · rw [Claims] at claims
                have before :
                    (Function.update system.phases box
                      (.completing _ irp) place).completes = some irp :=
                  claims
                rw [Function.update_of_ne equal] at before
                exact Or.inr before
        · have none : (system.files file).cleanup.irps.count irp = 0 :=
            List.count_eq_zero.mpr (waits.cleanup file)
          exact none.trans_le (Nat.zero_le 1)
      · refine
          .apart handed changes other rfl
            (disarm_weaker system moved irp wrapper) rfl
            (completes_update fun completes => ?_) fun _ => le_rfl
        exact same (Option.some.inj completes).symm

theorem completeFound_fate
    {box : Address} (invariant : system.Invariant)
    (handed : system.Handed irp)
    (changes : system.Changes (.completeFound box) next)
    (effect : Effect system (.completeFound box) next) :
    Fate system (.completeFound box) next irp := by
  have other : ∀ place, Event.completeFound box ≠ .enqueue irp place :=
    fun _ same => Event.noConfusion same
  cases effect with
  | @completed box place moved completing =>
      have silent : ∀ irp, (Phase.removing place moved).completes ≠ some irp :=
        fun _ completes => nomatch completes
      by_cases same : irp = moved
      · subst same
        have claimed : system.Claims irp (.dpc box) := by
          rw [Claims, completing]
          rfl
        have timer := Phase.irp_of_completes claimed
        have unarmed :=
          (complete_armed system irp irp WduIoStatus.successNoInfo).trans
            (handed.unarmed claimed)
        refine
          .completed (.dpc box) claimed (fun completer claims => ?_)
            (fun _ claims => ?_) (fun _ => le_rfl)
            (complete_completions system irp WduIoStatus.successNoInfo)
            (.of_dpc invariant handed timer unarmed rfl rfl rfl rfl rfl rfl)
        · cases completer with
          | request | cancelRoutine | cleanup _ => exact claims
          | dpc other =>
              exact
                @completes_update irp system.phases box _ (silent irp) other
                  claims
        · have still :
              (Function.update system.phases box
                (.removing place irp) box).completes = some irp :=
            claims
          rw [Function.update_self] at still
          exact silent irp still
      · exact
          .apart handed changes other rfl (setPacket_packets same) rfl
            (completes_update (silent irp)) fun _ => le_rfl

theorem removeFound_fate
    {box : Address} (handed : system.Handed irp)
    (changes : system.Changes (.removeFound box) next)
    (effect : Effect system (.removeFound box) next) :
    Fate system (.removeFound box) next irp := by
  have other : ∀ place, Event.removeFound box ≠ .enqueue irp place :=
    fun _ same => Event.noConfusion same
  cases effect with
  | removed _ _ =>
      exact
        .apart handed changes other rfl (.refl _) rfl
          (fun place => phases_update Phase.completes (Or.inl rfl) place irp)
          fun _ => le_rfl
  | outside _ _ =>
      exact
        .apart handed changes other rfl (.refl _) rfl (fun _ => id)
          fun _ => le_rfl

/-! ## Cancelling -/

theorem kernelCancel_fate
    {moved : Address} (handed : system.Handed irp)
    (changes : system.Changes (.kernelCancel moved) next)
    (effect : Effect system (.kernelCancel moved) next) :
    Fate system (.kernelCancel moved) next irp := by
  have other : ∀ place, Event.kernelCancel moved ≠ .enqueue irp place :=
    fun _ same => Event.noConfusion same
  cases effect with
  | marked _ _ =>
      by_cases same : irp = moved
      · subst same
        have packet :
            (system.setPacket irp
              { system.packets irp with cancel := true }).packets irp =
              { system.packets irp with cancel := true } :=
          Function.update_self irp _ system.packets
        refine
          .quiet handed changes other
            ⟨id, rfl, fun _ => id, fun _ => le_rfl, ?_⟩ id ?_
        · unfold completions
          rw [packet]
        · unfold isArmed
          rw [packet]
          exact id
      · exact
          .apart handed changes other rfl (setPacket_packets same) rfl
            (fun _ => id) fun _ => le_rfl
  | taken idle armed =>
      by_cases same : irp = moved
      · subst same
        have unclaimed := handed.armed armed
        let packet : Packet :=
          { system.packets irp with
            cancel := true
            fields := (system.packets irp).fields.storeRoutine false }
        have here :
            ((system.setPacket irp packet).setCancellation irp
              .taken).packets irp = packet :=
          Function.update_self irp _ system.packets
        have cancellation :
            ((system.setPacket irp packet).setCancellation irp
              .taken).cancellations irp = .taken :=
          Function.update_self irp _ system.cancellations
        have waiting :
            system.Waits irp →
              ((system.setPacket irp packet).setCancellation irp
                .taken).Waits irp := by
          intro waits
          refine ⟨waits.request, fun box completing => ?_, waits.cleanup⟩
          rw [cancellation] at completing
          cases completing
        have completions :
            ((system.setPacket irp packet).setCancellation irp
              .taken).completions irp = system.completions irp :=
          congrArg (fun packet => packet.irp.completions) here
        refine
          .taken .cancelRoutine (fun _ => unclaimed)
            (fun completer claims => ?_) (fun file => ?_) completions
            ⟨fun still => ?_, fun calm => ?_, fun early => ?_,
              fun record member based => ?_⟩
        · cases completer with
          | cancelRoutine => exact Or.inl rfl
          | request | dpc _ | cleanup _ => exact Or.inr claims
        · have none : (system.files file).cleanup.irps.count irp = 0 :=
            List.count_eq_zero.mpr (unclaimed.nobody (.cleanup file))
          exact none.trans_le (Nat.zero_le 1)
        · unfold isArmed at still
          rw [here] at still
          cases still
        · have unarmed := (handed.calm calm).2
          rw [isArmed, armed] at unarmed
          cases unarmed
        · obtain ⟨waits, fresh⟩ := handed.early early
          exact ⟨waiting waits, completions.trans fresh⟩
        · obtain ⟨waits, _⟩ := handed.entry record member based
          exact
            ⟨waiting waits, fun _ _ => completions.trans unclaimed.fresh⟩
      · exact
          .apart handed changes other rfl (setPacket_packets same)
            (Function.update_of_ne same _ _) (fun _ => id) fun _ => le_rfl

theorem cancelRoutine_fate
    {moved : Address} (invariant : system.Invariant)
    (handed : system.Handed irp)
    (changes : system.Changes (.cancelRoutine moved) next)
    (effect : Effect system (.cancelRoutine moved) next) :
    Fate system (.cancelRoutine moved) next irp := by
  have other : ∀ place, Event.cancelRoutine moved ≠ .enqueue irp place :=
    fun _ same => Event.noConfusion same
  cases effect with
  | unwrapped _ _ =>
      exact
        .apart handed changes other rfl (.refl _) rfl (fun _ => id)
          fun _ => le_rfl
  | @cancelled _ rest place record taken _ removal based =>
      have phases :=
        phases_cancelTimer Phase.completes rfl system.toNotifications
          record.box
      by_cases same : irp = moved
      · subst same
        have perm := Vec.swapRemove_perm removal
        have member := perm.mem_iff.mpr List.mem_cons_self
        have claimed : system.Claims irp .cancelRoutine := by
          rw [Claims, taken]
          exact Cancellation.noConfusion
        refine
          .kept (fun completer claims => ?_) (fun _ => le_rfl) rfl
            (.of_past (invariant.past_of_record member based)
              (handed.unarmed claimed) ?_)
        · cases completer with
          | request | cleanup _ => exact claims
          | cancelRoutine => exact claimed
          | dpc box => exact phases box irp claims
        · intro other left otherBased
          have otherMember :=
            perm.mem_iff.mpr (List.mem_cons_of_mem record left)
          have equal :=
            invariant.one other otherMember record member irp otherBased
              based
          have absent := (nodup_removal invariant.nodup removal).1
          exact absent (equal ▸ List.mem_map_of_mem left)
      · obtain ⟨_, cancellations⟩ :=
          Notifications.cancelTimer_rest system.toNotifications record.box
        exact
          .apart handed changes other rfl (.refl _)
            ((Function.update_of_ne same _ _).trans
              (congrFun cancellations irp))
            (fun box => phases box irp) fun _ => le_rfl

theorem completeCancelled_fate
    {moved : Address} (handed : system.Handed irp)
    (changes : system.Changes (.completeCancelled moved) next)
    (effect : Effect system (.completeCancelled moved) next) :
    Fate system (.completeCancelled moved) next irp := by
  have other : ∀ place, Event.completeCancelled moved ≠ .enqueue irp place :=
    fun _ same => Event.noConfusion same
  cases effect with
  | @dropped _ box completing =>
      by_cases same : irp = moved
      · subst same
        have claimed : system.Claims irp .cancelRoutine := by
          rw [Claims, completing]
          exact Cancellation.noConfusion
        have gone :
            Function.update system.cancellations irp .idle irp = .idle :=
          Function.update_self irp _ system.cancellations
        refine
          .completed .cancelRoutine claimed (fun completer claims => ?_)
            (fun _ claims => claims gone) (fun _ => le_rfl)
            (complete_completions system irp _) (.of_past ?_ ?_ ?_)
        · cases completer with
          | request | dpc _ | cleanup _ => exact claims
          | cancelRoutine => exact absurd gone claims
        · by_contra early
          rw [Bool.not_eq_true] at early
          exact (handed.early early).1.cancelRoutine box completing
        · exact (complete_armed system irp irp _).trans (handed.unarmed claimed)
        · intro record member based
          exact
            (handed.entry record member based).1.cancelRoutine box completing
      · exact
          .apart handed changes other rfl (setPacket_packets same)
            (Function.update_of_ne same _ _) (fun _ => id) fun _ => le_rfl

/-! ## Cleanup -/

/-- An entry whose request cleanup is going to complete. -/
theorem of_cleaned
    {file : Address} {phases : Address → Phase} {record : NotifyRecord}
    (cleaned : record.cleaned file phases = some irp) :
    record.isHit file phases = true ∧ record.kept file phases = none ∧
      ∃ wrapper, record.ty = .irpBased irp wrapper := by
  unfold NotifyRecord.cleaned at cleaned
  unfold NotifyRecord.kept
  split at cleaned
  case isTrue hit =>
      rw [if_pos hit]
      cases based : record.ty with
      | irpBased other wrapper =>
          simp only [based] at cleaned
          split at cleaned
          · cases cleaned
          · next uncached =>
            cases cleaned
            exact ⟨hit, if_neg uncached, wrapper, rfl⟩
      | eventBased event =>
          simp only [based] at cleaned
          cases cleaned
  case isFalse => cases cleaned

/-- Cleanup collects a request once. -/
theorem nodup_cleaned
    {file : Address} {phases : Address → Phase}
    (invariant : system.Invariant) :
    (system.queue.filterMap (NotifyRecord.cleaned file phases)).Nodup := by
  have nodup : system.queue.Nodup := invariant.nodup.of_map
  refine List.pairwise_filterMap.mpr ?_
  refine nodup.pairwise_of_forall_ne ?_
  intro record member other otherMember different irp cleaned otherIrp
    otherCleaned same
  subst same
  obtain ⟨_, _, wrapper, based⟩ := of_cleaned cleaned
  obtain ⟨_, _, otherWrapper, otherBased⟩ := of_cleaned otherCleaned
  have equal :=
    invariant.one record member other otherMember irp (by rw [based]; rfl)
      (by rw [otherBased]; rfl)
  exact different (eq_of_box invariant.nodup member otherMember equal)

theorem beginCleanup_fate
    {file : Address} (handed : system.Handed irp)
    (changes : system.Changes (.beginCleanup file) next)
    (effect : Effect system (.beginCleanup file) next) :
    Fate system (.beginCleanup file) next irp := by
  have other : ∀ box, Event.beginCleanup file ≠ .enqueue irp box :=
    fun _ same => Event.noConfusion same
  cases effect with
  | waiting _ =>
      refine
        .apart handed changes other rfl (.refl _) rfl (fun _ => id)
          fun place => ?_
      show
        (Function.update system.files file _ place).cleanup.irps.count irp ≤
          _
      by_cases same : place = file
      · rw [same, Function.update_self]
        exact Nat.zero_le _
      · rw [Function.update_of_ne same]

theorem cleanup_fate
    {file : Address} (invariant : system.Invariant)
    (handed : system.Handed irp)
    (changes : system.Changes (.cleanup file) next)
    (cleaned : system.Cleaned file next) :
    Fate system (.cleanup file) next irp := by
  have other : ∀ box, Event.cleanup file ≠ .enqueue irp box :=
    fun _ same => Event.noConfusion same
  have dpcs :
      ∀ box, (next.phases box).completes = some irp →
        (system.phases box).completes = some irp := by
    rw [congrArg Notifications.phases cleaned.notes]
    exact fun box => phases_afterCleanup Phase.completes rfl _ _ box irp
  have cancellations : next.cancellations = system.cancellations := by
    rw [congrArg Notifications.cancellations cleaned.notes]
    rfl
  have weaker := cleaned.weaker irp
  have here :
      (next.files file).cleanup.irps =
        system.queue.filterMap
          (NotifyRecord.cleaned file system.phases) := by
    rw [cleaned.files, Function.update_self]
    rfl
  have elsewhere :
      ∀ place, place ≠ file → next.files place = system.files place := by
    intro place different
    rw [cleaned.files, Function.update_of_ne different]
  by_cases collected :
      irp ∈
        system.queue.filterMap (NotifyRecord.cleaned file system.phases)
  · obtain ⟨record, member, taken⟩ := List.mem_filterMap.mp collected
    obtain ⟨hit, dropped, wrapper, based⟩ := of_cleaned taken
    have recorded : record.ty.irp = some irp := by
      rw [based]
      rfl
    obtain ⟨waits, _⟩ := handed.entry record member recorded
    refine
      @Fate.take system next irp _ (.cleanup file) (fun met => ?_)
        (fun completer claims => ?_) (fun place => ?_)
        (congrArg Irp.completions weaker.irp) ?_
        (cleaned.unarmed record member hit irp wrapper based) ?_
    · obtain ⟨idle, noDpc, fresh⟩ :=
        met cleaned.waiting cleaned.nobody record member irp taken
      refine .of_waits waits fresh idle fun box completes => ?_
      have own :=
        invariant.paired box irp (Phase.irp_of_completes completes) record
          member recorded
      rw [own] at noDpc
      exact noDpc completes
    · cases completer with
      | request =>
          rw [Claims, cleaned.calls] at claims
          exact Or.inr claims
      | cancelRoutine =>
          rw [Claims, cancellations] at claims
          exact Or.inr claims
      | dpc box => exact Or.inr (dpcs box claims)
      | cleanup place =>
          by_cases same : place = file
          · rw [same]
            exact Or.inl rfl
          · rw [Claims, elsewhere place same] at claims
            exact Or.inr claims
    · by_cases same : place = file
      · rw [same, here]
        exact List.nodup_iff_count_le_one.mp (nodup_cleaned invariant) irp
      · rw [elsewhere place same,
          List.count_eq_zero.mpr (waits.cleanup place)]
        exact Nat.zero_le 1
    · rw [cleaned.calls]
      exact invariant.past_of_record member recorded
    · intro left leftMember leftBased
      rw [congrArg Notifications.queue cleaned.notes] at leftMember
      obtain ⟨before, earlier, kept⟩ := List.mem_filterMap.mp leftMember
      have equal :=
        invariant.one before earlier record member irp
          ((same_of_kept kept).irp.trans leftBased) recorded
      rw [eq_of_box invariant.nodup earlier member equal, dropped] at kept
      cases kept
  · refine
      .apart handed changes other (congrFun cleaned.calls irp) weaker
        (congrFun cancellations irp) dpcs fun place => ?_
    by_cases same : place = file
    · rw [same, here, List.count_eq_zero.mpr collected]
      exact Nat.zero_le _
    · rw [elsewhere place same]

theorem completeCleaned_fate
    {file : Address} (handed : system.Handed irp)
    (changes : system.Changes (.completeCleaned file) next)
    (effect : Effect system (.completeCleaned file) next) :
    Fate system (.completeCleaned file) next irp := by
  have other : ∀ box, Event.completeCleaned file ≠ .enqueue irp box :=
    fun _ same => Event.noConfusion same
  cases effect with
  | @cleanedOne _ moved rest completing =>
      let left : FileState :=
        { system.files file with cleanup := .completing rest }
      have irps :
          (system.files file).cleanup.irps = moved :: rest := by
        rw [completing]
        rfl
      have shorter :
          ∀ place,
            (Function.update system.files file left
                place).cleanup.irps.count irp ≤
              (system.files place).cleanup.irps.count irp := by
        intro place
        by_cases same : place = file
        · rw [same, Function.update_self, irps]
          exact List.count_le_count_cons
        · rw [Function.update_of_ne same]
      by_cases same : irp = moved
      · subst same
        have claimed : system.Claims irp (.cleanup file) := by
          rw [Claims, irps]
          exact List.mem_cons_self
        refine
          .completed (.cleanup file) claimed (fun completer claims => ?_)
            (fun before claims => ?_) shorter
            (complete_completions system irp _) (.of_past ?_ ?_ ?_)
        · cases completer with
          | request | cancelRoutine | dpc _ => exact claims
          | cleanup place =>
              have positive := List.count_pos_iff.mpr claims
              exact
                List.count_pos_iff.mp (positive.trans_le (shorter place))
        · have once := before.once file
          have still :
              irp ∈
                (Function.update system.files file left
                  file).cleanup.irps :=
            claims
          rw [Function.update_self] at still
          rw [irps, List.count_cons_self] at once
          have positive : 0 < rest.count irp := List.count_pos_iff.mpr still
          omega
        · by_contra early
          rw [Bool.not_eq_true] at early
          exact (handed.early early).1.cleanup file claimed
        · exact (complete_armed system irp irp _).trans (handed.unarmed claimed)
        · intro record member based
          exact (handed.entry record member based).1.cleanup file claimed
      · exact
          .apart handed changes other rfl (setPacket_packets same) rfl
            (fun _ => id) shorter

theorem fate_of_step
    {event : Event} (invariant : system.Invariant)
    (handed : system.Handed irp)
    (stepped : system.step event = some next) :
    Fate system event next irp := by
  have changes := changes_of_step invariant stepped
  have effect := effect_of_step invariant.nodup stepped
  cases event with
  | dispatch moved file request =>
      exact dispatch_fate invariant handed changes effect
  | handle moved answer => exact handle_fate invariant handed changes effect
  | enqueue moved box => exact enqueue_fate invariant handed changes effect
  | ret moved => exact ret_fate handed changes effect
  | expire box => exact expire_fate handed changes effect
  | locate box => exact locate_fate invariant handed changes effect
  | completeFound box =>
      exact completeFound_fate invariant handed changes effect
  | removeFound box => exact removeFound_fate handed changes effect
  | kernelCancel moved => exact kernelCancel_fate handed changes effect
  | cancelRoutine moved =>
      exact cancelRoutine_fate invariant handed changes effect
  | completeCancelled moved =>
      exact completeCancelled_fate handed changes effect
  | beginCleanup file => exact beginCleanup_fate handed changes effect
  | cleanup file =>
      cases effect with
      | cleaned cleaned =>
          exact cleanup_fate invariant handed changes cleaned
  | completeCleaned file => exact completeCleaned_fate handed changes effect

/-! ## Who is second -/

/-- A request that two are going to complete was not handed over. -/
theorem handsOver_of_completedOnce
    {event : Event} (invariant : system.Invariant)
    (once : ∀ irp, next.CompletedOnce irp)
    (stepped : system.step event = some next) :
    system.HandsOver event := by
  have effect := effect_of_step invariant.nodup stepped
  cases event with
  | enqueue irp box =>
      intro file wrapper dueTime armed cancelled
      by_contra busy
      cases effect with
      | @refused _ _ otherFile otherWrapper otherTime _ _ _ =>
          have request :
              ((system.disarm irp otherWrapper).2.2.setCall irp
                (.returning (some otherFile) statusCancelled)).Claims irp
                .request :=
            congrArg Call.completes (setCall_self _ irp _)
          cases (once irp).one .request .cancelRoutine request busy
      | @pushedIrp _ _ _ otherWrapper otherTime _ _ otherArmed calm =>
          rcases calm with ⟨uncancelled, _⟩ | ⟨uncached, _⟩
          · rw [cancelled] at uncancelled
            cases uncancelled
          · exact
              invariant.wrappers irp _ otherWrapper otherTime otherArmed
                uncached
      | pushedEvent _ referenced =>
          rw [armed] at referenced
          cases referenced
  | locate box =>
      intro irp wrapper queued record member based
      by_contra busy
      have same : record.ty.same (.irpBased irp wrapper) = true :=
        (NotifyType.same_irpBased_iff _ _ _).mpr based
      have timer : (system.phases box).irp = some irp := by
        rw [queued]
        rfl
      cases effect with
      | freedBox _ freed =>
          have own := invariant.paired box irp timer record member based
          exact freed (Or.inl (own ▸ List.mem_map_of_mem member))
      | missed otherQueued absent =>
          rw [queued] at otherQueued
          cases otherQueued
          have different :=
            Notifications.findData_eq_none_iff.mp absent record member
          rw [same] at different
          cases different
      | @unset _ other otherWrapper _ _ otherQueued _ _ uncached =>
          have context :
              (system.phases box).context =
                some (.irpBased other otherWrapper) := by
            rw [otherQueued]
            rfl
          exact invariant.cached box other otherWrapper context uncached
      | @found _ other otherWrapper place _ otherQueued _ _ _ =>
          rw [queued] at otherQueued
          cases otherQueued
          have dpc :
              ((system.disarm irp wrapper).2.2.setPhase box
                (.completing place irp)).Claims irp (.dpc box) :=
            congrArg Phase.completes
              (Function.update_self box _ system.phases)
          cases (once irp).one (.dpc box) .cancelRoutine dpc busy
      | signalled otherQueued _ _ _ _ =>
          rw [queued] at otherQueued
          cases otherQueued
  | cleanup file =>
      intro _ _ record member irp taken
      cases effect with
      | cleaned cleaned =>
          have claimed : next.Claims irp (.cleanup file) := by
            rw [Claims, cleaned.files, Function.update_self]
            exact List.mem_filterMap.mpr ⟨record, member, taken⟩
          refine ⟨?_, fun completes => ?_, ?_⟩
          · by_contra busy
            have second : next.Claims irp .cancelRoutine := by
              rw [Claims, congrArg Notifications.cancellations cleaned.notes]
              exact busy
            cases (once irp).one (.cleanup file) .cancelRoutine claimed second
          · have second : next.Claims irp (.dpc record.box) := by
              rw [Claims, congrArg Notifications.phases cleaned.notes,
                part_afterCleanup Phase.completes (fun _ _ => rfl)]
              exact completes
            cases
              (once irp).one (.cleanup file) (.dpc record.box) claimed second
          · rw [← (once irp).fresh (.cleanup file) claimed]
            unfold completions
            rw [(cleaned.weaker irp).irp]
  | dispatch _ _ _ | handle _ _ | ret _ | expire _ | completeFound _
  | removeFound _ | kernelCancel _ | cancelRoutine _ | completeCancelled _
  | beginCleanup _ | completeCleaned _ => exact trivial

end

/-! ## Runs -/

theorem handed_start (irp : Address) : System.start.Handed irp where
  armed armed := nomatch armed
  calm _ := ⟨rfl, rfl⟩
  early _ :=
    ⟨⟨rfl, fun _ completing => Cancellation.noConfusion completing,
      fun _ => List.not_mem_nil⟩, rfl⟩
  entry _ member := absurd member List.not_mem_nil

theorem nobody_start (irp : Address) (completer : Completer) :
    ¬ System.start.Claims irp completer := by
  intro claims
  cases completer with
  | request => cases claims
  | cancelRoutine => exact claims rfl
  | dpc box => cases claims
  | cleanup file => exact List.not_mem_nil claims

/-- Along a run each request has one completer at most, and is completed once
at most, if and only if whoever decides under the lock that he completes a
request is the first to do so: the kernel has not yet taken its cancel routine
when the request finds itself cancelled, when a DPC looks for its entry or a
cleanup takes it out, and the cleanup finds neither a DPC that is about to
complete it nor that it was completed. -/
theorem completedOnce_iff (events : List Event) :
    Always step (fun system => ∀ irp, system.CompletedOnce irp) start
        events ↔
      Guarded step HandsOver start events := by
  refine
    @always_iff_guarded_of_step _ _ step
      (fun system => system.Invariant ∧ ∀ irp, system.Handed irp) _ _
      (fun system event next known stepped =>
        ⟨invariant_step known.1 stepped, fun irp =>
          (fate_of_step known.1 (known.2 irp) stepped).handed⟩)
      (fun system event next known once stepped =>
        ⟨fun after => handsOver_of_completedOnce known.1 after stepped,
          fun met irp =>
            (fate_of_step known.1 (known.2 irp) stepped).completedOnce
              (once irp) met⟩)
      _ _ ⟨invariant_start, handed_start⟩ fun irp => ?_
  exact
    ⟨fun completer _ claims => absurd claims (nobody_start irp completer),
      fun _ => Nat.zero_le 1,
      fun completer claims => absurd claims (nobody_start irp completer),
      Nat.zero_le 1⟩

/-- A DPC comes between the kernel that takes the cancel routine and the
routine itself. -/
example :
    (run step start
      [.dispatch 1 10 ⟨ioctlRegisterEvent, 24, some ⟨0, 0, 5⟩⟩,
        .handle 1 ⟨50, 0, 0⟩, .enqueue 1 100, .ret 1, .expire 100,
        .kernelCancel 1, .locate 100, .completeFound 100, .cancelRoutine 1,
        .completeCancelled 1]).map
      (fun system => system.completions 1) = some 2 := rfl

end System

end EventDriver

end WinDrvUtils
