/-
# Takeover.Proofs.Registry.Receivers -- who has the receiving ends

Every receiving end that is there is somebody's.  The consumer of a listener has that of the
listener's subscription as long as it reads, and the scenario has those of the subscriptions
that it opened, each under a name, until it drops one or uses the name for another
(`Tended`).  So a history tells that a receiving end was dropped exactly when nobody has it
any more (`Reached.attended_iff`).

With this the registry of subscriptions can be told from the history of a run, and the
history from the run (`Reached.numbers_subscriptions`).
-/
import Takeover.Proofs.OneShot
import Takeover.Proofs.Replaying
import Takeover.Proofs.Registry.Subscriptions

namespace Takeover

set_option autoImplicit false

variable {setup : Setup}

/-! ## Subscriptions of the scenario's own -/

/-- Where no subscription was issued, none was issued to anyone. -/
theorem issued_eq_nil_of_subscriptions {entries : List (Entry setup)}
    (none : subscriptions entries = []) (party : Option setup.ListenerId) :
    issued party entries = [] :=
  issued_eq_nil fun e mem _ _ notice =>
    List.not_mem_nil (none ▸ mem_subscriptions.2 ⟨e, mem, notice⟩)

/-- Where the store has as many channels as before, no subscription was issued. -/
theorem Cluster.Recorded.issued_eq {c c' : Cluster setup} (recorded : c.Recorded)
    (recorded' : c'.Recorded) (continued : ∃ new, c'.journal = c.journal ++ new)
    (length : c'.store.channels.length = c.store.channels.length)
    (party : Option setup.ListenerId) : issued party c'.journal = issued party c.journal := by
  obtain ⟨new, journal⟩ := continued
  have none : subscriptions new = [] := by
    have same := recorded'.issues
    rw [journal, subscriptions_append, recorded.issues, length] at same
    simpa using same
  rw [journal, issued_append, issued_eq_nil_of_subscriptions none, List.append_nil]

/-- The consumer of a listener has the receiving end of its subscription as long as it reads. -/
theorem Cluster.Attends.held_iff {c : Cluster setup} {l : setup.ListenerId} (attends : c.Attends l)
    {id : Membership.SubscriptionId} (own : id ∈ issued (some l) c.journal)
    {channel : Membership.Channel} (found : c.store.channel? id = some channel) :
    channel.held = true ↔ ∃ begun, (c.listener l).consumer = .reading id begun := by
  cases attends with
  | idle none => exact absurd (none ▸ own) List.not_mem_nil
  | reads other channel' one found' reads =>
      obtain rfl : id = other := List.mem_singleton.1 (one ▸ own)
      obtain rfl := Option.some.inj (found.symm.trans found')
      rw [reads.held]
      cases consumer : (c.listener l).consumer with
      | absent => exact absurd consumer reads.present
      | reading other begun => simp [reads.reading other begun consumer, Listener.Consumer.isOver]
      | ended => simp [Listener.Consumer.isOver]
      | cancelled => simp [Listener.Consumer.isOver]

/-- A start issues no subscription to the scenario. -/
theorem Cluster.Changes.issued_of_start {c c' : Cluster setup} {l : setup.ListenerId}
    (changes : Changes (.start l) c c') : issued none c'.journal = issued none c.journal := by
  refine changes.deeds.issued_eq ?_
  rintro scope id none ⟨rfl | rfl | ⟨slot, rfl⟩, -⟩ <;> cases none

/-- A stop issues no subscription to the scenario. -/
theorem Cluster.Changes.issued_of_stop {c c' : Cluster setup} {l : setup.ListenerId}
    (changes : Changes (.stop l) c c') : issued none c'.journal = issued none c.journal := by
  refine changes.deeds.issued_eq ?_
  rintro scope id none ⟨rfl | rfl, -⟩ <;> cases none

/-- Where every consumer that has something to do is queued, there is none to rouse. -/
theorem Cluster.Awake.rouse_eq {c : Cluster setup} (awake : c.Awake) : c.rouse = c := by
  have none : ((List.finRange setup.listeners.length).filter fun l =>
      c.consumerReady l && !c.isQueued (.consumer l)) = [] := by
    refine List.filter_eq_nil_iff.2 fun l _ sleeping => ?_
    obtain ⟨ready, unqueued⟩ := Bool.and_eq_true_iff.1 sleeping
    have queued := awake l (by simp) ready
    simp [Cluster.isQueued, queued] at unqueued
  unfold Cluster.rouse
  rw [none, List.map_nil, List.append_nil]

namespace Session

variable {s : Session setup}

/-- No turn of a task issues a subscription to the scenario. -/
theorem Sound.issued_oneTurn (sound : Sound s) :
    issued none s.oneTurn.cluster.journal = issued none s.cluster.journal := by
  cases queue : s.cluster.queue with
  | nil => rw [oneTurn_of_nil queue]
  | cons task rest =>
      rw [oneTurn_of_cons queue]
      have popped := withQueue sound.cluster rest
      have turned := (s.withQueue rest).turned_turn task
      generalize (s.withQueue rest).turn task = s' at turned ⊢
      cases turned with
      | idle => rfl
      | @consumed l ready =>
          refine ((popped.attends l).deeds_consumerTurn ready).issued_eq ?_
          rintro scope id none ⟨rfl, -⟩
          cases none
      | @swept number ready =>
          obtain ⟨d, c₁, stage, changes, turn⟩ :=
            Cluster.dispatchTurn_swept popped.recorded popped.attends ready
          show issued none ((s.withQueue rest).cluster.dispatchTurn number).journal = _
          rw [turn]
          refine changes.deeds.issued_eq ?_
          rintro scope id none ⟨rfl, -⟩
          cases none
      | @resumed number call found ready =>
          have passed : Sound (s.withQueue rest) := sound.passed queue trivial
          have changes := passed.changes_resume found
          show issued none ((s.withQueue rest).resumeCall number call).cluster.journal = _
          rw [cluster_resumeCall]
          cases call with
          | start l phase => exact changes.issued_of_start
          | stop l phase => exact changes.issued_of_stop
          | _ =>
              refine popped.recorded.issued_eq (popped.recorded.of_deeds changes.deeds)
                (changes.journal_eq.imp fun _ h => h.1) ?_ none
              rw [Cluster.store_resume_other _ rfl]

end Session

namespace Scenario

variable {s s' : Scenario setup} {id : Membership.SubscriptionId}

/-- Only an operation on subscriptions issues one to the scenario. -/
theorem Reached.issued_next (reached : Reached s) (next : Next s s') :
    issued none s'.cluster.journal = issued none s.cluster.journal ∨
      ∃ number name op, s' = (s.run number (.subscription name op)).1 := by
  have recorded := reached.sound.cluster.recorded
  have after : Reached s' := reached.leads (.single next)
  have unissued (length : s'.cluster.store.channels.length = s.cluster.store.channels.length) :
      issued none s'.cluster.journal = issued none s.cluster.journal :=
    recorded.issued_eq after.sound.cluster.recorded (reached.journal (.single next)) length none
  cases next with
  | @operated number op instant =>
      cases op with
      | store op =>
          obtain ⟨new, journal, announces⟩ := s.announces_runStore op
          left
          show issued _ (s.runStore op).1.cluster.journal = _
          rw [journal, issued_append, issued_eq_nil_of_subscriptions announces.opened,
            List.append_nil]
      | subscription name op => exact .inr ⟨number, name, op, rfl⟩
      | subsystem x op =>
          have store := s.store_runSubsystem number x op
          exact .inl (unissued (congrArg (fun store => store.channels.length) store))
      | listener l op =>
          left
          cases op with
          | start =>
              have changes := s.cluster.changes_start (l := l)
              show issued none (s.begun number (s.cluster.start l)).1.cluster.journal = _
              rw [journal_begun]
              exact changes.issued_of_start
          | stop =>
              have changes := s.cluster.changes_stop l
              show issued none (s.begun number (s.cluster.stop l)).1.cluster.journal = _
              rw [journal_begun]
              exact changes.issued_of_stop
          | wait =>
              show issued none (s.begun number (s.cluster.awaitEnd l)).1.cluster.journal = _
              rw [journal_begun, Cluster.fst_awaitEnd]
          | describe => rfl
          | watch name => rfl
      | watched name =>
          left
          exact congrArg (fun t => issued none t.cluster.journal) (s.session_runWatched name)
      | settle => exact nomatch instant
      | advance millis => exact nomatch instant
      | closePool =>
          have deeds := (s.cluster.changes_closePool fun l id begun reading =>
            (reached.sound.cluster.attends l).own reading).deeds
          exact .inl (deeds.issued_eq fun scope id none allowed => allowed)
      | dump => exact .inl rfl
  | roused => exact .inl rfl
  | turned => exact .inl reached.sound.issued_oneTurn
  | elapsed time settled =>
      obtain ⟨more, stopped, -⟩ := s.session.stopAt_eq time
      left
      show issued none (s.session.stopAt time).cluster.journal = _
      rw [stopped]
      rfl

/-! ## Names -/

/-- The scenario has the receiving ends of its own subscriptions under different names. -/
structure Tended (s : Scenario setup) : Prop where
  named : (s.handles.map Prod.fst).Nodup
  held : ∀ id ∈ issued none s.cluster.journal, ∀ channel,
    s.cluster.store.channel? id = some channel → channel.held = true →
      ∃ entry ∈ s.handles, entry.2.id = id ∧ entry.2.held = true

/-- A receiving end that is there was there before, if its subscription was issued then. -/
theorem Reached.held_before (reached : Reached s) (leads : Leads s s')
    {party : Option setup.ListenerId} (own : id ∈ issued party s.cluster.journal)
    {channel : Membership.Channel} (found : s'.cluster.store.channel? id = some channel)
    (held : channel.held = true) :
    ∃ old, s.cluster.store.channel? id = some old ∧ old.held = true := by
  obtain ⟨history, befalls⟩ := reached.befalls
  obtain ⟨more, later⟩ := reached.befalls_leads leads
  have tallies := Cluster.Tallies.initial.befalls befalls
  obtain ⟨old, before⟩ := reached.sound.cluster.recorded.channel_of_issued own
  refine ⟨old, before, ?_⟩
  have known := tallies.exists_channel.1 ⟨old, before⟩
  have kept := (tallies.befalls later).held id channel found
  rw [held, wasDropped, sinceIssued_append known, List.any_append, Bool.not_or] at kept
  rw [tallies.held id old before]
  exact (Bool.and_eq_true_iff.1 kept.symm).1

/-- A name is bound to one handle. -/
theorem Tended.eq_of_lookup (tended : Tended s) {name : String} {handle : Handle}
    (found : s.handles.lookup name = some handle) {entry : String × Handle}
    (mem : entry ∈ s.handles) (same : entry.1 = name) : entry.2 = handle := by
  have equal := List.inj_on_of_nodup_map tended.named (mem_of_lookup found) mem same.symm
  exact congrArg Prod.snd equal.symm

theorem nodup_bind {α : Type} {names : List (String × α)} (named : (names.map Prod.fst).Nodup)
    (name : String) (x : α) : ((bind names name x).map Prod.fst).Nodup := by
  rw [bind, List.map_cons, List.nodup_cons]
  refine ⟨fun mem => ?_, named.sublist (List.filter_sublist.map _)⟩
  obtain ⟨entry, mem, same⟩ := List.mem_map.1 mem
  exact of_decide_eq_true (List.mem_filter.1 mem).2 same

namespace Tended

/-- A name is bound to another handle.  The receiving end that was had under the name is gone. -/
theorem bound (tended : Tended s) (reached : Reached s) (leads : Leads s s') {name : String}
    {handle : Handle} (handles : s'.handles = bind s.handles name handle)
    (issue : ∀ id ∈ issued none s'.cluster.journal, id ∈ issued none s.cluster.journal ∨
      handle = { id })
    (gone : ∀ old channel, s.handles.lookup name = some old →
      s'.cluster.store.channel? old.id = some channel → channel.held = false) : Tended s' where
  named := handles ▸ nodup_bind tended.named name handle
  held id own channel found held := by
    rw [handles]
    rcases issue id own with own | rfl
    · obtain ⟨old, before, there⟩ := reached.held_before leads own found held
      obtain ⟨entry, mem, rfl, grip⟩ := tended.held id own old before there
      refine ⟨entry, List.mem_cons_of_mem _ (List.mem_filter.2 ⟨mem, decide_eq_true ?_⟩), rfl, grip⟩
      intro same
      have lookup : s.handles.lookup name = some entry.2 := by
        cases looked : s.handles.lookup name with
        | none =>
            have unbound := List.lookup_eq_none_iff.1 looked entry mem
            exact absurd same.symm (by simpa using unbound)
        | some old => rw [tended.eq_of_lookup looked mem same]
      exact Bool.false_ne_true ((gone _ channel lookup found).symm.trans held)
    · exact ⟨(name, { id }), List.mem_cons_self, rfl, rfl⟩

/-- What leaves the handles alone, and issues nothing to the scenario. -/
theorem kept (tended : Tended s) (reached : Reached s) (leads : Leads s s')
    (handles : s'.handles = s.handles)
    (unissued : issued none s'.cluster.journal = issued none s.cluster.journal) : Tended s' where
  named := handles ▸ tended.named
  held id own channel found held := by
    rw [unissued] at own
    obtain ⟨old, before, there⟩ := reached.held_before leads own found held
    rw [handles]
    exact tended.held id own old before there

/-- A subscription whose receiving end was just dropped. -/
theorem gone_dropReceiver {c : Cluster setup} {channel : Membership.Channel}
    (found : (c.dropReceiver id).store.channel? id = some channel) : channel.held = false := by
  have dropped : (c.dropReceiver id).store.channel? id = (c.store.channel? id).map .drop := by
    refine (c.store.channel?_modifyChannel id id .drop).trans (if_pos rfl)
  rw [dropped] at found
  obtain ⟨old, -, rfl⟩ := Option.map_eq_some_iff.1 found
  rfl

/-- A subscription that is issued is the only one that the journal has in addition. -/
theorem issued_subscribe (result : (s.cluster.subscribe .outside).2 = .ok id) :
    ∀ other ∈ issued none (s.cluster.subscribe .outside).1.journal,
      other ∈ issued none s.cluster.journal ∨ ({ id } : Handle) = { id := other } := by
  intro other own
  rw [s.cluster.journal_subscribe result, issued_append] at own
  refine (List.mem_append.1 own).imp_right fun mem => ?_
  rw [List.mem_singleton.1 mem]

theorem runSubscription (tended : Tended s) (reached : Reached s) (name : String)
    (op : SubscriptionOp) (leads : Leads s (s.runSubscription name op).1) :
    Tended (s.runSubscription name op).1 := by
  have announces := s.announces_runSubscription name op
  have handling := s.handling name op
  generalize s.runSubscription name op = after at handling leads announces ⊢
  cases handling with
  | declined => exact tended
  | refused result =>
      obtain ⟨failures, same⟩ := Cluster.fst_subscribe_of_error result
      exact tended.kept reached leads rfl (congrArg (fun c => issued none c.journal) same)
  | opened result free =>
      exact tended.bound reached leads rfl (issued_subscribe result) fun old channel looked =>
        nomatch free.symm.trans looked
  | renamed result found =>
      refine tended.bound reached leads rfl (issued_subscribe result) fun old channel looked there => ?_
      obtain rfl := Option.some.inj (found.symm.trans looked)
      exact gone_dropReceiver there
  | @released handle =>
      obtain ⟨new, journal, announces⟩ := announces
      have unissued : subscriptions new = [] := by
        rw [announces.opened]
        show (storeAnswer (s.cluster.store.release handle.id).2).opened = []
        cases (s.cluster.store.release handle.id).2 <;> rfl
      refine tended.kept reached leads rfl ?_
      rw [journal, issued_append, issued_eq_nil_of_subscriptions unissued, List.append_nil]
  | received | receivedAll => exact tended.kept reached leads rfl rfl
  | dropped found =>
      refine tended.bound reached leads rfl (fun id own => .inl own) fun old channel looked there => ?_
      obtain rfl := Option.some.inj (found.symm.trans looked)
      exact gone_dropReceiver there

theorem next (tended : Tended s) (reached : Reached s) (next : Next s s') : Tended s' := by
  have leads : Leads s s' := .single next
  by_cases subscription : ∃ number name op, s' = (s.run number (.subscription name op)).1
  · obtain ⟨number, name, op, rfl⟩ := subscription
    exact tended.runSubscription reached name op leads
  · exact tended.kept reached leads ((handles_next next).resolve_right subscription)
      ((reached.issued_next next).resolve_right subscription)

end Tended

/-- **In every reached state the scenario has the receiving ends of its own subscriptions.** -/
theorem Reached.tended (reached : Reached s) : Tended s := by
  induction reached with
  | initial =>
      have unissued := issued_eq_nil_of_subscriptions
        (@Reached.initial setup).sound.cluster.recorded.issues none
      exact ⟨.nil, fun id own => absurd (unissued ▸ own) List.not_mem_nil⟩
  | operated number reached instant ih => exact ih.next reached (.operated number instant)
  | roused reached ih => exact ih.next reached .roused
  | turned reached ih => exact ih.next reached .turned
  | elapsed time reached settled ih => exact ih.next reached (.elapsed time settled)

/-! ## Who has a receiving end -/

/-- Somebody has the receiving end of a subscription: the scenario under a name, or the consumer
of a listener. -/
def Attended (s : Scenario setup) (id : Membership.SubscriptionId) : Prop :=
  (∃ entry ∈ s.handles, entry.2.id = id ∧ entry.2.held = true) ∨
    ∃ l begun, (s.cluster.listener l).consumer = .reading id begun

/-- **A receiving end is there as long as somebody has it.** -/
theorem Reached.attended_iff (reached : Reached s) {history : List (Happening setup)}
    (befalls : (Scenario.initial setup).cluster.Befalls history s.cluster)
    (own : id ∈ issuedIds history) : wasDropped id history = false ↔ Attended s id := by
  have tallies := Cluster.Tallies.initial.befalls befalls
  rw [List.nil_append] at tallies
  obtain ⟨channel, there⟩ := tallies.exists_channel.2 own
  have held := tallies.held id channel there
  have flag : wasDropped id history = false ↔ channel.held = true := by
    rw [held, Bool.not_eq_true']
  rw [flag]
  constructor
  · intro grip
    obtain ⟨new, journal, issues⟩ := befalls.journal
    obtain ⟨e, mem, notice⟩ := mem_subscriptions.1 (issues ▸ own)
    have party : id ∈ issued e.scope.listener? s.cluster.journal := by
      rw [journal]
      exact mem_issued.2 ⟨e, List.mem_append_right _ mem, rfl, notice⟩
    cases owner : e.scope.listener? with
    | none => exact .inl (reached.tended.held id (owner ▸ party) channel there grip)
    | some l => exact .inr ⟨l, ((reached.sound.cluster.attends l).held_iff (owner ▸ party) there).1 grip⟩
  · rintro (⟨entry, mem, rfl, grip⟩ | ⟨l, begun, reading⟩)
    · obtain ⟨seen, channel', found, held, -⟩ := reached.grips.held entry mem grip
      exact Option.some.inj (there.symm.trans found) ▸ held
    · have attends := reached.sound.cluster.attends l
      exact (attends.held_iff (attends.own reading) there).2 ⟨begun, reading⟩

/-! ## The theorem -/

/-- The subscriptions of a scenario are numbered, counted and released as its history tells. -/
structure NumbersSubscriptions (s : Scenario setup) : Prop where
  /-- The scenario has a history, -/
  history : ∃ history, (Scenario.initial setup).cluster.Befalls history s.cluster
  /-- which whatever comes later continues. -/
  continued : ∀ s', Leads s s' → ∃ more, s.cluster.Befalls more s'.cluster
  /-- The registry can be read off the history at every moment, also in the middle of a turn. -/
  moments : ∀ history c, (Scenario.initial setup).cluster.Befalls history c → c.Registry history
  /-- A receiving end was dropped exactly when neither a name nor a consumer has it. -/
  attended : ∀ history, (Scenario.initial setup).cluster.Befalls history s.cluster →
    ∀ id ∈ issuedIds history, (wasDropped id history = false ↔ s.Attended id)
  /-- To subscribe is answered with the next number. -/
  opened : ∀ history name, (Scenario.initial setup).cluster.Befalls history s.cluster →
    .subscribe ∉ s.cluster.store.failures →
      (s.runSubscription name .subscribe).2 = .subscribed ⟨(issuedIds history).length⟩
  /-- A release of a subscription that is current succeeds. -/
  released : ∀ history id, (Scenario.initial setup).cluster.Befalls history s.cluster →
    .release ∉ s.cluster.store.failures → isCurrent id history = true →
      (s.runStore (.release id)).2 = .ok
  /-- A release of any other is refused, and nothing changes. -/
  refused : ∀ history id, (Scenario.initial setup).cluster.Befalls history s.cluster →
    .release ∉ s.cluster.store.failures → isCurrent id history = false →
      s.runStore (.release id) = (s, .membershipError (.unknownSubscription id))

/-- **Subscriptions are numbered in order, and the store sends to those that were neither released
nor pruned.** -/
theorem Reached.numbers_subscriptions (reached : Reached s) : NumbersSubscriptions s := by
  have moments (history : List (Happening setup)) (c : Cluster setup)
      (befalls : (Scenario.initial setup).cluster.Befalls history c) : c.Registry history :=
    (List.nil_append history ▸ Cluster.Tallies.initial.befalls befalls).registry
  constructor
  case history => exact reached.befalls
  case continued => exact fun s' leads => reached.befalls_leads leads
  case moments => exact moments
  case attended => exact fun history befalls id own => reached.attended_iff befalls own
  case opened =>
    intro history name befalls clear
    obtain ⟨answer, -⟩ := (moments history _ befalls).subscribes .outside clear
    unfold runSubscription
    generalize s.cluster.subscribe .outside = result at answer
    obtain ⟨c, result⟩ := result
    obtain rfl : result = _ := answer
    rfl
  case released =>
    intro history id befalls clear current
    obtain ⟨answer, -⟩ := (moments history _ befalls).releases .outside id clear current
    exact congrArg storeAnswer answer
  case refused =>
    intro history id befalls clear gone
    have still : s.cluster.rouse = s.cluster := reached.sound.awake.rouse_eq
    have answer := (moments history _ befalls).unknown .outside id clear gone
    rw [still] at answer
    exact congrArg (fun result => (s.withCluster result.1, storeAnswer result.2)) answer

/-- Somebody whose first try fails subscribes, and so does a listener, and somebody again; the
first subscription is released, and the receiving end of the last is dropped. -/
def registrations : List (Step small) :=
  [{ op := .store (.failNext .subscribe) }, { op := .subscription "s" .subscribe },
    { op := .subscription "s" .subscribe }, { op := .listener keeper .start },
    { op := .subscription "t" .subscribe }, { op := .subscription "s" .release },
    { op := .subscription "t" .drop }]

/-- The subscription whose receiving end was dropped counts until a node joins; then it cannot be
released, and the next subscription does not get its number. -/
theorem numbers_subscriptions_registrations :
    NumbersSubscriptions (after small registrations) ∧
      (after small registrations).cluster.store.subscriptionCount = 2 ∧
      let s := after small (registrations ++ [{ op := .store (.join ⟨"b"⟩) }])
      NumbersSubscriptions s ∧ s.cluster.store.subscriptionCount = 1 ∧
        s.cluster.store.failures = [] ∧
        (s.runStore (.release ⟨2⟩)).2 = .membershipError (.unknownSubscription ⟨2⟩) ∧
        (s.runStore (.release ⟨1⟩)).2 = .ok ∧
        (s.runSubscription "t" .subscribe).2 = .subscribed ⟨3⟩ := by
  refine ⟨(reached_after _).numbers_subscriptions, by cbv, (reached_after _).numbers_subscriptions,
    by cbv, by cbv, by cbv, by cbv, by cbv⟩

end Scenario

end Takeover
