/-
# Takeover.Proofs.Farewells.Candour -- why a consumer ends, and what it says

The consumer of a listener says with one notice that it comes to its end, and the notice says
why.  What must have been written before it is said once, in `Justified`: a start that failed
or a stop that had to cut the drain short, a stop that had begun after which every event was
handled, or a release by somebody else.

A listener is `Candid` while its record bears this out: whoever told its consumer to end has
written why, and its code releases its subscription only after it has told its consumer to end,
or that a stop has begun.  What leaves the consumer alone (`Bypasses`) has only to see to that;
and most of what happens is of no consequence for it (`Placid`): it writes minor notices, and
does not touch what the record says of the consumer.
-/
import Mathlib.Data.List.Induction
import Takeover.Proofs.Requests
import Takeover.Proofs.Sound

namespace Takeover

set_option autoImplicit false

open Recovery (Kind Target)

variable {setup : Setup}

/-! ## What a consumer says -/

namespace Notice

/-- Whether a consumer says with a notice that it comes to its end. -/
def isFarewell : Notice setup → Bool
  | .consumerHalted | .consumerDrained | .closedUnexpectedly => true
  | _ => false

/-- The event that a consumer says it has handled. -/
def handled? : Notice setup → Option Membership.Event
  | .nodeJoined node => some (.nodeAdded node)
  | .nodeLeft node | .ownRemovalIgnored node => some (.nodeRemoved node)
  | .channelErrorIgnored reason => some (.channelError reason)
  | _ => none

end Notice

section

variable (l : setup.ListenerId)

/-- What the consumer of a listener said, in order. -/
def saidBy (entries : List (Entry setup)) : List (Notice setup) :=
  (entries.filter fun e => decide (e.scope = .consuming l)).map Entry.notice

/-- How the consumer of a listener said that it ended. -/
def farewells (entries : List (Entry setup)) : List (Notice setup) :=
  (saidBy l entries).filter Notice.isFarewell

/-- The events that the consumer of a listener handled, in order. -/
def handledBy (entries : List (Entry setup)) : List Membership.Event :=
  (saidBy l entries).filterMap Notice.handled?

/-- The time that a listener has for its stop has passed since the stop was accepted. -/
def Expired (entries : List (Entry setup)) (time : Nat) : Prop :=
  ∃ e ∈ entries, e.scope = .listener l ∧ e.notice = .transition .running .stopping ∧
    e.time + (setup.config l).shutdownTimeout ≤ time

/-- An entry says why the consumer of a listener was told to end: a start failed, the release
of a stop failed, or the consumer did not drain in time. -/
def Excuses (entries : List (Entry setup)) (e : Entry setup) : Prop :=
  e.scope = .starting l ∧ (∃ error, e.notice = .startFailed error) ∨
    e.scope = .stopping l ∧ ((∃ id error, e.notice = .releaseFailed id error) ∨
      (∃ timeout, e.notice = .drainTimedOut timeout) ∧ Expired l entries e.time)

/-- It was written why the consumer of a listener was told to end. -/
def Excused (entries : List (Entry setup)) : Prop := ∃ e ∈ entries, Excuses l entries e

/-- What was written before the consumer of a listener said how it ended. -/
def Justified (before : List (Entry setup)) : Notice setup → Prop
  | .consumerHalted => Excused l before
  | .consumerDrained => Wrote (.stopping l) before .stopEntered ∧
      ∃ id, issued (some l) before = [id] ∧ listedAfter id false before = false ∧
        handledBy l before = during id before
  | .closedUnexpectedly => ∃ id ∈ issued (some l) before,
      ∃ e ∈ before, e.notice = .released id ∧ e.scope.listener? ≠ some l
  | _ => True

/-- A notice with which neither the consumer of a listener says anything of its end, nor a
subscription is issued to it. -/
structure Neutral (scope : Scope setup) (notice : Notice setup) : Prop where
  said : scope = .consuming l → notice.isFarewell = false ∧ notice.handled? = none
  unissued : scope.listener? = some l → ∀ id, notice ≠ .subscribed id

/-- A notice that has nothing to do with the end of a listener's consumer. -/
structure Minor (scope : Scope setup) (notice : Notice setup) : Prop extends
    Neutral l scope notice where
  kept : scope.listener? = some l → ∀ id, notice ≠ .released id

variable {l} {first second entries new : List (Entry setup)} {scope : Scope setup}
  {notice : Notice setup}

@[simp] theorem saidBy_append : saidBy l (first ++ second) = saidBy l first ++ saidBy l second := by
  simp [saidBy]

@[simp] theorem farewells_append :
    farewells l (first ++ second) = farewells l first ++ farewells l second := by
  simp [farewells]

@[simp] theorem handledBy_append :
    handledBy l (first ++ second) = handledBy l first ++ handledBy l second := by
  simp [handledBy]

theorem mem_saidBy : notice ∈ saidBy l entries ↔
    ∃ e ∈ entries, e.scope = .consuming l ∧ e.notice = notice := by
  simp [saidBy, and_assoc]

theorem mem_farewells : notice ∈ farewells l entries ↔
    ∃ e ∈ entries, e.scope = .consuming l ∧ e.notice = notice ∧ notice.isFarewell = true := by
  rw [farewells, List.mem_filter, mem_saidBy]
  constructor
  · rintro ⟨⟨e, mem, code, same⟩, farewell⟩
    exact ⟨e, mem, code, same, farewell⟩
  · rintro ⟨e, mem, code, same, farewell⟩
    exact ⟨⟨e, mem, code, same⟩, farewell⟩

theorem farewells_neutral (neutral : ∀ e ∈ new, Neutral l e.scope e.notice) :
    farewells l new = [] := by
  refine List.filter_eq_nil_iff.2 fun notice mem farewell => ?_
  obtain ⟨e, inside, code, rfl⟩ := mem_saidBy.1 mem
  exact absurd (((neutral e inside).said code).1.symm.trans farewell) Bool.false_ne_true

theorem handledBy_neutral (neutral : ∀ e ∈ new, Neutral l e.scope e.notice) :
    handledBy l new = [] := by
  refine List.filterMap_eq_nil_iff.2 fun notice mem => ?_
  obtain ⟨e, inside, code, rfl⟩ := mem_saidBy.1 mem
  exact ((neutral e inside).said code).2

theorem issued_neutral (neutral : ∀ e ∈ new, Neutral l e.scope e.notice) :
    issued (some l) new = [] :=
  issued_eq_nil fun e mem id mine => (neutral e mem).unissued mine id

theorem Excused.append (excused : Excused l entries) (new : List (Entry setup)) :
    Excused l (entries ++ new) := by
  obtain ⟨e, mem, excuse⟩ := excused
  refine ⟨e, List.mem_append_left _ mem, excuse.imp_right fun stop => ⟨stop.1, ?_⟩⟩
  exact stop.2.imp_right fun drain => ⟨drain.1, drain.2.imp fun a accepted =>
    ⟨List.mem_append_left _ accepted.1, accepted.2⟩⟩

/-- Only farewells have to be justified. -/
theorem justified_of_not_farewell (before : List (Entry setup))
    (other : notice.isFarewell = false) : Justified l before notice := by
  cases notice <;> trivial

theorem minor_of_subsystem {s : setup.SubsystemId} (about : notice.subsystem? = some s) :
    Minor l scope notice := by
  cases notice <;> first
    | (simp [Notice.subsystem?] at about; done)
    | exact ⟨⟨fun _ => ⟨rfl, rfl⟩, fun _ id same => by cases same⟩, fun _ id same => by cases same⟩

/-- What starts and stops write is minor, unless they subscribe or release. -/
theorem minor_of_other (code : scope ≠ .consuming l) (unissued : ∀ id, notice ≠ .subscribed id)
    (kept : ∀ id, notice ≠ .released id) : Minor l scope notice :=
  ⟨⟨fun same => absurd same code, fun _ => unissued⟩, fun _ => kept⟩

theorem minor_of_remark (code : scope ≠ .consuming l) (remark : notice.isRemark = true) :
    Minor l scope notice := by
  refine minor_of_other code (fun id same => ?_) fun id same => ?_
  · rw [same] at remark
    exact Bool.false_ne_true remark
  · rw [same] at remark
    exact Bool.false_ne_true remark

/-- A subscription that was issued, and to which the store does not send any more, was released. -/
theorem exists_released {id : Membership.SubscriptionId}
    (opened : ∃ e ∈ entries, e.notice = .subscribed id)
    (gone : listedAfter id false entries = false) : ∃ e ∈ entries, e.notice = .released id := by
  induction entries using List.reverseRecOn with
  | nil => exact absurd opened (by simp)
  | append_singleton entries last ih =>
      rw [listedAfter_concat] at gone
      by_cases release : last.notice = .released id
      · exact ⟨last, by simp, release⟩
      by_cases issue : last.notice = .subscribed id
      · simp [issue, Notice.listing] at gone
      obtain ⟨e, mem, notice⟩ := opened
      have early : ∃ e ∈ entries, e.notice = .subscribed id := by
        rcases List.mem_append.1 mem with mem | mem
        · exact ⟨e, mem, notice⟩
        · exact absurd (List.mem_singleton.1 mem ▸ notice) issue
      have before : listedAfter id false entries = false := by
        cases kind : last.notice with
        | subscribed other =>
            rw [kind] at gone issue
            have differ : other ≠ id := fun same => issue (same ▸ rfl)
            simpa [Notice.listing, differ] using gone
        | released other =>
            rw [kind] at gone release
            have differ : other ≠ id := fun same => release (same ▸ rfl)
            simpa [Notice.listing, differ] using gone
        | _ => simpa [kind, Notice.listing] using gone
      obtain ⟨e, mem, notice⟩ := ih early before
      exact ⟨e, List.mem_append_left _ mem, notice⟩

end

namespace Cluster

variable {licence : Licence setup} {c c' c'' : Cluster setup} {l : setup.ListenerId}

/-! ## What is of no consequence -/

/-- What leaves alone the consumer of a listener. -/
structure Bypasses (l : setup.ListenerId) (c c' : Cluster setup) : Prop where
  ended : (c'.listener l).consumer = .ended ↔ (c.listener l).consumer = .ended
  journal : ∃ new, c'.journal = c.journal ++ new ∧ ∀ e ∈ new, Neutral l e.scope e.notice
  seen : ∀ id ∈ issued (some l) c.journal, ∀ channel, c.store.channel? id = some channel →
    ∃ after, c'.store.channel? id = some after ∧ after.seen = channel.seen

theorem Bypasses.issued_eq (bypasses : Bypasses l c c') :
    issued (some l) c'.journal = issued (some l) c.journal := by
  obtain ⟨new, journal, neutral⟩ := bypasses.journal
  rw [journal, issued_append, issued_neutral neutral, List.append_nil]

/-- What leaves alone how the consumer of a listener ends. -/
structure Placid (l : setup.ListenerId) (c c' : Cluster setup) : Prop where
  halted : (c'.listener l).halted = (c.listener l).halted
  stopping : (c'.listener l).stopping = (c.listener l).stopping
  consumer : (c'.listener l).consumer = (c.listener l).consumer
  journal : ∃ new, c'.journal = c.journal ++ new ∧ ∀ e ∈ new, Minor l e.scope e.notice
  seen : ∀ id ∈ issued (some l) c.journal, ∀ channel, c.store.channel? id = some channel →
    ∃ after, c'.store.channel? id = some after ∧ after.seen = channel.seen

namespace Placid

theorem bypasses (placid : Placid l c c') : Bypasses l c c' where
  ended := by rw [placid.consumer]
  journal := placid.journal.imp fun _ journal =>
    ⟨journal.1, fun e mem => (journal.2 e mem).toNeutral⟩
  seen := placid.seen

theorem refl (l : setup.ListenerId) (c : Cluster setup) : Placid l c c :=
  ⟨rfl, rfl, rfl, continued_of_eq rfl, fun _ _ channel found => ⟨channel, found, rfl⟩⟩

theorem trans (first : Placid l c c') (second : Placid l c' c'') : Placid l c c'' where
  halted := second.halted.trans first.halted
  stopping := second.stopping.trans first.stopping
  consumer := second.consumer.trans first.consumer
  journal := continued_trans first.journal second.journal
  seen id own channel found := by
    obtain ⟨mid, found', seen⟩ := first.seen id own channel found
    obtain ⟨after, found'', seen'⟩ := second.seen id (first.bypasses.issued_eq ▸ own) mid found'
    exact ⟨after, found'', seen'.trans seen⟩

/-- A listener whose record is what it was. -/
theorem of_record (record : c'.listener l = c.listener l)
    (journal : ∃ new, c'.journal = c.journal ++ new ∧ ∀ e ∈ new, Minor l e.scope e.notice)
    (seen : ∀ id ∈ issued (some l) c.journal, ∀ channel, c.store.channel? id = some channel →
      ∃ after, c'.store.channel? id = some after ∧ after.seen = channel.seen) : Placid l c c' where
  halted := by rw [record]
  stopping := by rw [record]
  consumer := by rw [record]
  journal := journal
  seen := seen

end Placid

/-- Nothing is received by whoever attends to no subscription. -/
theorem Deeds.seen_eq (deeds : Deeds licence c c') (nobody : ∀ party, ¬licence.attends party)
    {id : Membership.SubscriptionId} {channel : Membership.Channel}
    (found : c.store.channel? id = some channel) :
    ∃ after, c'.store.channel? id = some after ∧ after.seen = channel.seen := by
  induction deeds with
  | refl => exact ⟨channel, found, rfl⟩
  | tail _ deed ih =>
      obtain ⟨mid, found', seen⟩ := ih
      cases deed with
      | written scope notice allowed fresh journal store subsystems now =>
          refine ⟨_, store ▸ notice.channel?_onStore found', ?_⟩
          exact (notice.sent_onChannel id mid).seen.trans seen
      | aside quiet members channels =>
          refine ⟨mid, ?_, seen⟩
          rw [Membership.Store.channel?, channels]
          exact found'
      | received party id count allowed => exact absurd allowed (nobody party)
      | dropped party id allowed => exact absurd allowed (nobody party)

/-- Those who write what is neutral for a listener. -/
def neutral (l : setup.ListenerId) : Licence setup where
  writes scope notice := Neutral l scope notice
  alters _ := False
  attends _ := False

/-- Those who write what is minor for a listener. -/
def minor (l : setup.ListenerId) : Licence setup where
  writes scope notice := Minor l scope notice
  alters _ := False
  attends _ := False

theorem handles_minor (l : setup.ListenerId) (scope : Scope setup) (s : setup.SubsystemId) :
    Handles (minor l) scope s := fun _ about => minor_of_subsystem about

theorem Changes.bypasses (changes : Changes (neutral l) c c') : Bypasses l c c' where
  ended := by rw [changes.listener_eq (fun h => h) fun h => h]
  journal := changes.journal_eq
  seen _ _ _ found := changes.deeds.seen_eq (fun _ h => h) found

theorem Changes.placid (changes : Changes (minor l) c c') : Placid l c c' :=
  .of_record (changes.listener_eq (fun h => h) fun h => h) changes.journal_eq
    fun _ _ _ found => changes.deeds.seen_eq (fun _ h => h) found

/-- What is done by a party that spares a listener and does not speak as its consumer. -/
theorem Deeds.placid (deeds : Deeds licence c c') (recorded : c.Recorded)
    (spares : Spares licence l) (attends : ¬licence.attends (some l))
    (hush : ∀ notice, ¬licence.writes (.consuming l) notice)
    (record : c'.listener l = c.listener l) : Placid l c c' := by
  obtain ⟨new, journal, allowed⟩ := deeds.journal_eq
  refine .of_record record ⟨new, journal, fun e mem => ⟨⟨fun code => ?_, fun mine id => ?_⟩,
    fun mine id => ?_⟩⟩ fun id own channel found => ?_
  · exact absurd (code ▸ allowed e mem) (hush e.notice)
  · exact (spares.unlike (allowed e mem) mine id).1
  · exact (spares.unlike (allowed e mem) mine id).2
  · obtain ⟨after, found', sent⟩ := recorded.sent_of_deeds deeds attends own found
    exact ⟨after, found', sent.seen⟩

theorem Changes.placid_of_spares (changes : Changes licence c c') (recorded : c.Recorded)
    (spares : Spares licence l) (attends : ¬licence.attends (some l))
    (hush : ∀ notice, ¬licence.writes (.consuming l) notice) : Placid l c c' :=
  changes.deeds.placid recorded spares attends hush (changes.listener_eq spares.alters attends)

section

variable (c)

theorem placid_tell {scope : Scope setup} {notice : Notice setup} (minor : Minor l scope notice)
    (remark : notice.isRemark = true) : Placid l c (c.tell scope notice) :=
  have changes : Changes (Cluster.minor l) c (c.tell scope notice) := c.changes_tell minor remark
  changes.placid

theorem placid_remark {scope : Scope setup} {notice : Notice setup} (code : scope ≠ .consuming l)
    (remark : notice.isRemark = true) : Placid l c (c.tell scope notice) :=
  c.placid_tell (minor_of_remark code remark) remark

/-- A record may be altered in what does not concern the consumer. -/
theorem placid_modifyListener (k : setup.ListenerId) {f : Listener → Listener}
    (halted : ∀ x, (f x).halted = x.halted) (stopping : ∀ x, (f x).stopping = x.stopping)
    (consumer : ∀ x, (f x).consumer = x.consumer) : Placid l c (c.modifyListener k f) := by
  have record := c.listener_modifyListener k l f
  refine ⟨?_, ?_, ?_, continued_of_eq rfl, fun _ _ channel found => ⟨channel, found, rfl⟩⟩
  · rw [record]
    split <;> rename_i same
    · rw [halted, same]
    · rfl
  · rw [record]
    split <;> rename_i same
    · rw [stopping, same]
    · rfl
  · rw [record]
    split <;> rename_i same
    · rw [consumer, same]
    · rfl

theorem placid_reportSweep {scope : Scope setup} (code : scope ≠ .consuming l) (slot : Kind)
    (target : Target) (result : Except Recovery.Error Unit) :
    Placid l c (c.reportSweep scope slot target result) := by
  cases result with
  | ok => exact c.placid_remark code rfl
  | error error => exact c.placid_remark code rfl

theorem placid_deregisterNode {scope : Scope setup} (code : scope ≠ .consuming l)
    (k : setup.ListenerId) : Placid l c (c.deregisterNode scope k) := by
  have asked : Placid l c (c.tell scope .deregistering) :=
    c.placid_remark code rfl
  have left : Changes (minor l) (c.tell scope .deregistering)
      ((c.tell scope .deregistering).deregister scope (setup.node k)).1 :=
    changes_deregister _ (minor_of_other code (fun _ => nofun) fun _ => nofun)
  have gone := asked.trans left.placid
  unfold deregisterNode
  split <;> rename_i result <;> rw [result] at gone
  · exact gone
  · exact gone.trans (placid_remark _ code rfl)

/-- A startup sweep is of no consequence. -/
theorem placid_advanceCatchUp (l : setup.ListenerId) (sweep : CatchUp setup) :
    Placid l c (c.advanceCatchUp l sweep).1 := by
  have code : Scope.catchingUp l sweep.slot ≠ .consuming l := nofun
  have handles := handles_minor l (.catchingUp l sweep.slot) sweep.subsystem
  have looking : Changes (minor l) c c.currentMembers.1 := c.changes_currentMembers
  have asked (live : NodeSet) : Placid l c (c.currentMembers.1.askCatchUp l sweep live).1 :=
    (looking.placid.trans (placid_remark _ code rfl)).trans (changes_ask _ handles _).placid
  have turn := c.catchUpTurn l sweep
  generalize c.advanceCatchUp l sweep = step at turn ⊢
  cases turn with
  | refused => exact looking.placid
  | waits | panics => exact asked _
  | answers => exact (asked _).trans (placid_reportSweep _ code _ _ _)
  | acts => exact (changes_act c handles _).placid.trans (placid_reportSweep _ code _ _ _)
  | early | ended => exact .refl l c

theorem placid_advanceCatchUps (l : setup.ListenerId) (sweeps : List (CatchUp setup)) :
    Placid l c (c.advanceCatchUps l sweeps).1 :=
  c.along_advanceCatchUps (.refl l) .trans fun c sweep _ => c.placid_advanceCatchUp l sweep

end

/-! ## Candour -/

/-- Nothing speaks against what the consumer of a listener says, or will say, of its end. -/
structure Candid (c : Cluster setup) (l : setup.ListenerId) : Prop where
  /-- Whoever told the consumer to end has written why. -/
  halted : (c.listener l).halted = true → Excused l c.journal
  stopping : (c.listener l).stopping = true → Wrote (.stopping l) c.journal .stopEntered
  /-- The consumer is warned before the code of its listener releases the subscription. -/
  warned : ∀ e ∈ c.journal, e.scope.listener? = some l → ∀ id, e.notice = .released id →
    (c.listener l).halted = true ∨ (c.listener l).stopping = true
  once : (farewells l c.journal).length = if (c.listener l).consumer = .ended then 1 else 0
  truthful : ∀ before e after, c.journal = before ++ e :: after → e.scope = .consuming l →
    Justified l before e.notice
  unissued : issued (some l) c.journal = [] → handledBy l c.journal = []
  /-- What the consumer received it has handled. -/
  handled : ∀ id ∈ issued (some l) c.journal,
    ∃ channel, c.store.channel? id = some channel ∧ channel.seen = handledBy l c.journal

namespace Candid

/-- Whoever releases nothing more has warned the consumer as before. -/
theorem warned_append (candid : Candid c l) {new : List (Entry setup)}
    (kept : ∀ e ∈ new, e.scope.listener? = some l → ∀ id, e.notice ≠ .released id) :
    ∀ e ∈ c.journal ++ new, e.scope.listener? = some l → ∀ id, e.notice = .released id →
      (c.listener l).halted = true ∨ (c.listener l).stopping = true := by
  intro e mem mine id release
  rcases List.mem_append.1 mem with mem | mem
  · exact candid.warned e mem mine id release
  · exact absurd release (kept e mem mine id)

/-- A consumer that says nothing more of its end has told the truth as before. -/
theorem truthful_append (candid : Candid c l) {new : List (Entry setup)}
    (quiet : ∀ e ∈ new, e.scope = .consuming l → e.notice.isFarewell = false) :
    ∀ before e after, c.journal ++ new = before ++ e :: after → e.scope = .consuming l →
      Justified l before e.notice := by
  intro before e after split code
  rcases split_of_append split with ⟨mid, early, -⟩ | ⟨mid, -, late⟩
  · exact candid.truthful before e mid early code
  · have mem : e ∈ new := by rw [late]; simp
    exact justified_of_not_farewell before (quiet e mem code)

/-- A listener stays candid when its consumer is left alone, if it still says why its consumer
was told to end, and warns it before it releases. -/
theorem bypasses (candid : Candid c l) (bypasses : Bypasses l c c')
    (halted : (c'.listener l).halted = true → Excused l c'.journal)
    (stopping : (c'.listener l).stopping = true → Wrote (.stopping l) c'.journal .stopEntered)
    (warned : ∀ e ∈ c'.journal, e.scope.listener? = some l → ∀ id, e.notice = .released id →
      (c'.listener l).halted = true ∨ (c'.listener l).stopping = true) : Candid c' l := by
  obtain ⟨new, journal, neutral⟩ := bypasses.journal
  have handled : handledBy l c'.journal = handledBy l c.journal := by
    rw [journal, handledBy_append, handledBy_neutral neutral, List.append_nil]
  refine ⟨halted, stopping, warned, ?_, ?_, ?_, ?_⟩
  case refine_1 =>
    rw [journal, farewells_append, farewells_neutral neutral, List.append_nil, candid.once]
    simp only [bypasses.ended]
  case refine_2 =>
    rw [journal]
    exact candid.truthful_append fun e mem code => ((neutral e mem).said code).1
  case refine_3 =>
    intro none
    rw [handled]
    exact candid.unissued (bypasses.issued_eq ▸ none)
  case refine_4 =>
    intro id own
    rw [bypasses.issued_eq] at own
    obtain ⟨channel, found, seen⟩ := candid.handled id own
    obtain ⟨after, found', same⟩ := bypasses.seen id own channel found
    exact ⟨after, found', by rw [same, seen, handled]⟩

/-- **What is of no consequence leaves a listener candid.** -/
theorem placid (candid : Candid c l) (placid : Placid l c c') : Candid c' l := by
  obtain ⟨new, journal, minor⟩ := placid.journal
  refine candid.bypasses placid.bypasses (fun told => ?_) (fun begun => ?_) ?_
  · exact journal ▸ (candid.halted (placid.halted.symm.trans told)).append new
  · exact journal ▸ (candid.stopping (placid.stopping.symm.trans begun)).append new
  · rw [placid.halted, placid.stopping, journal]
    exact candid.warned_append fun e mem => (minor e mem).kept

end Candid

end Cluster

end Takeover
