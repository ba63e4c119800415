/-
# Takeover.Proofs.Farewells.Runs -- how consumers say that they end

A consumer on the listener's own runtime that has a turn leaves its listener candid: it handles
what it receives, and when it ends it says so once and with good reason
(`Candid.consumerTurn`).  Others are of no consequence, and the listener's own starts and stops
are candid by their stages; so every rule keeps a listener candid (`Candid.step`), and in every
state that a scenario can be in its consumer has told the truth (`Reached.tells_end`).
-/
import Takeover.Proofs.Farewells.Stages
import Takeover.Proofs.Life.Lived

namespace Takeover

set_option autoImplicit false

variable {setup : Setup}

theorem Notice.quiet_of_handled {notice : Notice setup} {event : Membership.Event}
    (handled : notice.handled? = some event) :
    notice.isFarewell = false ∧ ∀ id, notice ≠ .subscribed id ∧ notice ≠ .released id := by
  cases notice <;> simp [Notice.handled?, Notice.isFarewell] at handled ⊢

namespace Cluster

variable {licence : Licence setup} {c c' : Cluster setup} {l k : setup.ListenerId}
  {id : Membership.SubscriptionId} {channel : Membership.Channel}

/-! ## The consumer of the listener -/

/-- A consumer that has its first turn has said nothing of its end. -/
theorem Candid.greet (candid : Candid c l) (reading : (c.listener l).consumer = .reading id false) :
    Candid (c.greet l id) l := by
  have record := c.listener_greet l id
  have journal : (c.greet l id).journal =
      c.journal ++ [⟨c.now, .consuming l, .consumerStarted id⟩] := rfl
  have bypasses : Bypasses l c (c.greet l id) := by
    refine ⟨?_, ⟨_, journal, fun e mem => ?_⟩, fun _ _ channel found => ⟨channel, found, rfl⟩⟩
    · rw [record, reading]
      simp
    · obtain rfl := List.mem_singleton.1 mem
      exact ⟨fun _ => ⟨rfl, rfl⟩, fun _ _ => nofun⟩
  refine candid.bypasses bypasses (fun told => ?_) (fun begun => ?_) ?_
  · rw [record] at told
    exact journal ▸ (candid.halted told).append _
  · rw [record] at begun
    exact journal ▸ (candid.stopping begun).append _
  · rw [record, journal]
    refine candid.warned_append fun e mem _ other release => ?_
    obtain rfl := List.mem_singleton.1 mem
    cases release

/-- A consumer writes down each event that it handles. -/
theorem journal_handle (c : Cluster setup) (l : setup.ListenerId) (event : Membership.Event) :
    ∃ e : Entry setup, (c.handle l event).journal = c.journal ++ [e] ∧
      e.scope = .consuming l ∧ e.notice.handled? = some event := by
  cases event with
  | nodeAdded node => exact ⟨_, rfl, rfl, rfl⟩
  | channelError reason => exact ⟨_, rfl, rfl, rfl⟩
  | nodeRemoved node =>
      unfold handle
      dsimp only
      split
      · exact ⟨_, rfl, rfl, rfl⟩
      · let e : Entry setup := ⟨c.now, .consuming l, .nodeLeft node⟩
        have dispatched := along_dispatchAll (c.tell (.consuming l) (.nodeLeft node))
          (P := fun d => d.journal = c.journal ++ [e]) rfl (fun _ _ same => same) l node
        exact ⟨e, dispatched, rfl, rfl⟩

/-- A consumer writes down what it handles, in order, and nothing else. -/
theorem journal_consume (c : Cluster setup) (l : setup.ListenerId) (id : Membership.SubscriptionId)
    (count : Nat) :
    ∃ new : List (Entry setup), (c.consume l id count).journal = c.journal ++ new ∧
      (∀ e ∈ new, e.scope = .consuming l ∧ ∃ event, e.notice.handled? = some event) ∧
        handledBy l new = (c.store.waiting id).take count := by
  have handled (events : List Membership.Event) (c : Cluster setup) :
      ∃ new : List (Entry setup),
        (events.foldl (fun c event => c.handle l event) c).journal = c.journal ++ new ∧
          (∀ e ∈ new, e.scope = .consuming l ∧ ∃ event, e.notice.handled? = some event) ∧
            handledBy l new = events := by
    induction events generalizing c with
    | nil => exact ⟨[], (List.append_nil _).symm, fun _ mem => absurd mem List.not_mem_nil, rfl⟩
    | cons event rest ih =>
        obtain ⟨e, first, code, tells⟩ := c.journal_handle l event
        obtain ⟨new, journal, said, others⟩ := ih (c.handle l event)
        refine ⟨e :: new, ?_, ?_, ?_⟩
        · rw [List.foldl_cons, journal, first, List.append_assoc]
          rfl
        · intro e' mem
          rcases List.mem_cons.1 mem with rfl | mem
          · exact ⟨code, event, tells⟩
          · exact said e' mem
        · rw [← List.singleton_append, handledBy_append, others]
          simp [handledBy, saidBy, code, tells]
  exact handled _ { c with store := c.store.take id count }

/-- A consumer that receives handles what it received. -/
theorem Candid.consume (candid : Candid c l) (one : issued (some l) c.journal = [id])
    (found : c.store.channel? id = some channel) (count : Nat) :
    Candid (c.consume l id count) l := by
  have own : id ∈ issued (some l) c.journal := by simp [one]
  have record : (c.consume l id count).listener l = c.listener l :=
    listener_congr (c.listeners_consume l id count) l
  obtain ⟨new, journal, said, handled⟩ := c.journal_consume l id count
  have quiet : ∀ e ∈ new, e.notice.isFarewell = false ∧
      ∀ id, e.notice ≠ .subscribed id ∧ e.notice ≠ .released id := fun e mem =>
    have ⟨_, _, tells⟩ := said e mem
    Notice.quiet_of_handled tells
  have silent : farewells l new = [] := by
    refine List.eq_nil_iff_forall_not_mem.2 fun notice mem => ?_
    obtain ⟨e, inside, -, same, farewell⟩ := mem_farewells.1 mem
    rw [← same, (quiet e inside).1] at farewell
    exact Bool.false_ne_true farewell
  have same : issued (some l) (c.consume l id count).journal = [id] :=
    (c.issued_consume own count).trans one
  constructor
  case halted =>
    rw [record, journal]
    exact fun told => (candid.halted told).append new
  case stopping =>
    rw [record, journal]
    exact fun begun => (candid.stopping begun).append new
  case warned =>
    rw [record, journal]
    exact candid.warned_append fun e mem _ other => ((quiet e mem).2 other).2
  case once =>
    rw [record, journal, farewells_append, silent, List.append_nil]
    exact candid.once
  case truthful =>
    rw [journal]
    exact candid.truthful_append fun e mem _ => (quiet e mem).1
  case unissued =>
    intro none
    rw [same] at none
    exact nomatch none
  case handled =>
    intro other mine
    rw [same] at mine
    obtain rfl := List.mem_singleton.1 mine
    obtain ⟨channel', found', seen⟩ := candid.handled other own
    obtain rfl : channel = channel' := Option.some.inj (found.symm.trans found')
    have waiting : c.store.waiting other = channel.waiting := by
      simp [Membership.Store.waiting, found]
    refine ⟨channel.take count, ?_, ?_⟩
    · rw [channel?_consume, found]
      rfl
    · rw [journal, handledBy_append, handled, waiting, ← seen]
      rfl

/-- A consumer that has a reason to end says so, and has said it once then. -/
theorem Candid.ends (candid : Candid c l) (going : (c.listener l).consumer ≠ .ended)
    (id : Membership.SubscriptionId) {notice : Notice setup} (farewell : notice.isFarewell = true)
    (justified : Justified l c.journal notice) :
    Candid ((c.tell (.consuming l) notice).endConsumer l id .ended) l := by
  let e : Entry setup := ⟨c.now, .consuming l, notice⟩
  have record := (c.tell (.consuming l) notice).listener_endConsumer l id .ended
  have journal : ((c.tell (.consuming l) notice).endConsumer l id .ended).journal =
      c.journal ++ [e] := rfl
  have quiet : notice.handled? = none ∧ ∀ id, notice ≠ .subscribed id ∧ notice ≠ .released id := by
    cases notice <;> simp [Notice.isFarewell, Notice.handled?] at farewell ⊢
  have same : issued (some l) (c.journal ++ [e]) = issued (some l) c.journal :=
    c.issued_tell notice fun id => (quiet.2 id).1
  have handled : handledBy l (c.journal ++ [e]) = handledBy l c.journal := by
    rw [handledBy_append]
    simp [handledBy, saidBy, e, quiet.1]
  constructor
  case halted =>
    rw [record]
    exact fun told => (candid.halted told).append [e]
  case stopping =>
    rw [record]
    exact fun begun => (candid.stopping begun).append [e]
  case warned =>
    rw [record, journal]
    refine candid.warned_append fun e' mem _ other => ?_
    obtain rfl := List.mem_singleton.1 mem
    exact (quiet.2 other).2
  case once =>
    have none := candid.once
    rw [if_neg going] at none
    rw [record, journal, farewells_append, List.length_append, none]
    simp [farewells, saidBy, e, farewell]
  case truthful =>
    intro before e' after split code
    rw [journal] at split
    rcases split_of_append split with ⟨mid, early, -⟩ | ⟨mid, rfl, late⟩
    · exact candid.truthful before e' mid early code
    · obtain ⟨rfl, same, -⟩ : mid = [] ∧ e = e' ∧ after = [] := by
        cases mid with
        | nil => simpa [List.cons.injEq] using late
        | cons x mid => simp at late
      rw [List.append_nil, ← same]
      exact justified
  case unissued =>
    intro none
    rw [journal, same] at none
    exact handled.trans (candid.unissued none)
  case handled =>
    intro other mine
    rw [journal, same] at mine
    obtain ⟨channel, found, seen⟩ := candid.handled other mine
    have dropped := (c.tell (.consuming l) notice).store.channel?_modifyChannel id other .drop
    have after : ((c.tell (.consuming l) notice).endConsumer l id .ended).store.channel? other =
        if id = other then some channel.drop else some channel := by
      refine dropped.trans ?_
      rw [store_tell, found]
      rfl
    rw [after, journal, handled]
    split
    · exact ⟨_, rfl, seen⟩
    · exact ⟨_, rfl, seen⟩

/-- A consumer that finds its subscription closed, and everything on it handled, says whether a
stop is the reason. -/
theorem Candid.closing (candid : Candid c l) (recorded : Recorded c)
    (one : issued (some l) c.journal = [id]) (found : c.store.channel? id = some channel)
    (held : channel.held = true) (waiting : channel.waiting = []) (unlisted : channel.listed = false)
    (going : (c.listener l).consumer ≠ .ended) (untold : (c.listener l).halted = false) :
    Candid (c.closing l id) l := by
  have own : id ∈ issued (some l) c.journal := by simp [one]
  have drained := Membership.Channel.drained_of_tells (recorded.channels id _ found) held waiting
    unlisted
  obtain ⟨channel', found', seen⟩ := candid.handled id own
  obtain rfl : channel = channel' := Option.some.inj (found.symm.trans found')
  unfold Cluster.closing
  by_cases stops : (c.listener l).stopping = true
  · rw [if_pos stops]
    exact candid.ends going id rfl
      ⟨candid.stopping stops, id, one, drained.released, seen.symm.trans drained.whole⟩
  · rw [if_neg stops]
    obtain ⟨e, mem, -, notice⟩ := mem_issued.1 own
    obtain ⟨e', mem', release⟩ := exists_released ⟨e, mem, notice⟩ drained.released
    refine candid.ends going id rfl ⟨id, own, e', mem', release, fun mine => ?_⟩
    -- the listener's own code would have warned the consumer before
    rcases candid.warned e' mem' mine id release with told | begun
    · exact absurd (told.symm.trans untold) (by simp)
    · exact stops begun

/-- A consumer that greeted does what there is to do. -/
theorem Candid.read (candid : Candid c l) (recorded : Recorded c)
    (one : issued (some l) c.journal = [id]) (found : c.store.channel? id = some channel)
    (held : channel.held = true) (reading : (c.listener l).consumer = .reading id true) :
    Candid (c.read l id) l := by
  have own : id ∈ issued (some l) c.journal := by simp [one]
  have consumed := candid.consume one found burst
  have turn := c.readTurn l id
  generalize c.read l id = c' at turn ⊢
  cases turn with
  | halts told => exact candid.ends (by simp [reading]) id rfl (candid.halted told)
  | goesOn =>
      exact consumed.placid (.of_record rfl (continued_of_eq rfl) fun _ _ channel found =>
        ⟨channel, found, rfl⟩)
  | closes untold nothing closed =>
      have record : (c.consume l id burst).listener l = c.listener l :=
        listener_congr (c.listeners_consume l id burst) l
      have found' : (c.consume l id burst).store.channel? id = some (channel.take burst) := by
        rw [channel?_consume, found]
        rfl
      rw [Membership.Store.isClosed_eq found, Bool.not_eq_true'] at closed
      rw [Membership.Store.waiting, found'] at nothing
      exact consumed.closing (recorded.of_deeds (c.deeds_consume own burst))
        ((c.issued_consume own burst).trans one) found' held nothing closed
        (by rw [record, reading]; simp) (by rw [record, untold])
  | rests => exact consumed

/-- **A consumer that has a turn leaves its listener candid.** -/
theorem Candid.consumerTurn (candid : Candid c l) (recorded : Recorded c) (attends : Attends c l) :
    Candid (c.consumerTurn l) l := by
  have turn := c.consumerTurn_cases l
  generalize c.consumerTurn l = c' at turn ⊢
  cases attends with
  | idle none absent unasked =>
      cases turn with
      | begun reading | first reading => simp [absent] at reading
      | absent => exact candid
  | reads other channel one found reads =>
      cases turn with
      | begun reading =>
          obtain rfl := reads.reading _ _ reading
          have held : channel.held = true := by
            simp [reads.held, reading, Listener.Consumer.isOver]
          exact candid.read recorded one found held reading
      | @first id reading =>
          obtain rfl := reads.reading _ _ reading
          have held : channel.held = true := by
            simp [reads.held, reading, Listener.Consumer.isOver]
          have one' : issued (some l) (c.greet l id).journal = [id] :=
            (issued_tell _ (.consumerStarted id) (by simp)).trans one
          refine (candid.greet reading).read (recorded.of_deeds (c.changes_greet reading).deeds) one'
            found held ?_
          rw [c.listener_greet l id]
      | absent => exact candid

/-! ## Others -/

theorem placid_outside (recorded : Recorded c) (changes : Changes .outside c c') :
    Placid l c c' := by
  obtain ⟨spares, alien⟩ := Sound.spares_outside l
  exact changes.placid_of_spares recorded spares alien fun _ h => nomatch h.1

theorem placid_start (ne : l ≠ k) (recorded : Recorded c) (changes : Changes (.start k) c c') :
    Placid l c c' := by
  obtain ⟨spares, alien⟩ := Sound.spares_start ne
  refine changes.placid_of_spares recorded spares alien ?_
  rintro notice ⟨code | code | ⟨slot, code⟩, -⟩ <;> exact nomatch code

theorem placid_stop (ne : l ≠ k) (recorded : Recorded c) (changes : Changes (.stop k) c c') :
    Placid l c c' := by
  obtain ⟨spares, alien⟩ := Sound.spares_stop ne
  refine changes.placid_of_spares recorded spares alien ?_
  rintro notice ⟨code | code, -⟩ <;> exact nomatch code

theorem placid_sweep {d : Dispatch setup} (recorded : Recorded c)
    (changes : Changes (.sweep d) c c') : Placid l c c' := by
  obtain ⟨spares, alien⟩ := Sound.spares_sweep d l
  exact changes.placid_of_spares recorded spares alien fun _ h => nomatch h.1

/-- The pool has no part in the consumers of other runtimes. -/
theorem placid_pool (own : (setup.config l).pool = false) (recorded : Recorded c)
    (changes : Changes .pool c c') : Placid l c c' := by
  refine changes.placid_of_spares recorded (Sound.spares_pool l) ?_ fun _ h => h
  rintro ⟨k, same, pool⟩
  obtain rfl := Option.some.inj same
  exact absurd (pool.symm.trans own) (by simp)

/-- The consumers of others are of no consequence. -/
theorem placid_consumerTurn (ne : l ≠ k) (recorded : Recorded c) (attends : Attends c k)
    (ready : c.consumerReady k = true) : Placid l c (c.consumerTurn k) := by
  have spares := Sound.spares_consumer k l
  have alien : ¬(Licence.consumer k).attends (some l) := fun h => ne (Option.some.inj h)
  have hush : ∀ notice, ¬(Licence.consumer k).writes (.consuming l) notice := by
    rintro notice ⟨code, -⟩
    exact ne (Scope.consuming.inj code)
  obtain ⟨id, begun, reading⟩ := reading_of_consumerReady ready
  obtain ⟨events, c₁, c₂, first, deeds, dispatched, last⟩ :=
    consumerTurn_parts reading (attends.own reading)
  have recorded₁ := recorded.of_deeds first.deeds
  have middle : Placid l c₁ c₂ :=
    deeds.placid recorded₁ spares alien hush (listener_congr dispatched.listeners l)
  exact ((first.placid_of_spares recorded spares alien hush).trans middle).trans
    (last.placid_of_spares (recorded₁.of_deeds deeds) spares alien hush)

/-- What neither writes nor touches records or subscriptions is of no consequence. -/
theorem placid_still (record : c'.listener l = c.listener l) (journal : c'.journal = c.journal)
    (store : c'.store = c.store) : Placid l c c' :=
  .of_record record (continued_of_eq journal) fun _ _ channel found =>
    ⟨channel, store ▸ found, rfl⟩

end Cluster

/-! ## The rules -/

namespace Session

open Cluster (Candid Unbegun Placid)

variable {s s' : Session setup} {l : setup.ListenerId}

/-- A start finds its listener without a subscription, as long as it has not subscribed. -/
theorem Sound.unbegun (sound : Sound s) (unissued : issued (some l) s.cluster.journal = []) :
    Unbegun s.cluster l :=
  ⟨unissued, ((sound.cluster.attends l).idle_of_unissued unissued).1⟩

theorem candid_started (candid : Candid s.cluster l) (sound : Sound s)
    (own : (setup.config l).pool = false) (k : setup.ListenerId) :
    Candid (s.cluster.start k).1 l := by
  by_cases mine : l = k
  · subst mine
    refine candid.start own fun new => sound.unbegun ?_
    have stands := sound.cluster.stands l
    generalize s.activity l = calls at stands
    cases stands with
    | new state unregistered unsubscribed going silent unissued => exact unissued
    | _ => simp_all
  · exact candid.placid (Cluster.placid_start mine sound.cluster.recorded s.cluster.changes_start)

theorem candid_stopped (candid : Candid s.cluster l) (sound : Sound s) (k : setup.ListenerId) :
    Candid (s.cluster.stop k).1 l := by
  by_cases mine : l = k
  · subst mine
    exact candid.stop
  · exact candid.placid (Cluster.placid_stop mine sound.cluster.recorded (s.cluster.changes_stop k))

/-- A call that goes on. -/
theorem candid_resumed (candid : Candid s.cluster l) (sound : Sound s) (lived : Lived s l)
    (own : (setup.config l).pool = false) {number : Nat} {call : Call setup}
    (found : s.calls.lookup number = some call) : Candid (s.cluster.resume call).1 l := by
  have changes := sound.changes_resume found
  have recorded := sound.cluster.recorded
  cases call with
  | start k phase =>
      by_cases mine : l = k
      · subst mine
        refine candid.resumeStart own fun slot x timer later waits => sound.unbegun ?_
        have stands := sound.activity_of_found found rfl ▸ sound.cluster.stands l
        subst waits
        cases stands with
        | awaiting state settling unsubscribed unissued => exact unissued
      · exact candid.placid (Cluster.placid_start mine recorded changes)
  | stop k phase =>
      by_cases mine : l = k
      · subst mine
        refine candid.resumeStop fun timer waits due => ?_
        have active := sound.activity_of_found found rfl
        obtain ⟨time, accepted, deadline⟩ : s.cluster.Rests (.stop l (.draining timer)) :=
          lived.rests _ (by rw [active, waits]; exact List.mem_singleton.2 rfl)
        exact ⟨_, accepted, rfl, rfl, deadline ▸ due⟩
      · exact candid.placid (Cluster.placid_stop mine recorded changes)
  | sweep | awaitReady | awaitEnd => exact candid.placid (Cluster.placid_outside recorded changes)

/-- **Every rule keeps a listener candid** whose consumer runs on its own runtime. -/
theorem candid_step (candid : Candid s.cluster l) (sound : Sound s) (lived : Lived s l)
    (own : (setup.config l).pool = false) (step : Step s s') : Candid s'.cluster l := by
  have recorded := sound.cluster.recorded
  cases step with
  | outside changes => exact candid.placid (Cluster.placid_outside recorded changes)
  | queued | passed => exact candid.placid (Cluster.placid_still rfl rfl rfl)
  | waited => exact candid
  | started number k => exact candid_started candid sound own k
  | stopped number k => exact candid_stopped candid sound k
  | poolClosed =>
      have changes : s.cluster.Changes .pool s.cluster.closePool :=
        s.cluster.changes_closePool fun l id begun reading => (sound.cluster.attends l).own reading
      exact candid.placid (Cluster.placid_pool own recorded changes)
  | @consumed k rest queue ready =>
      have popped := Sound.withQueue sound.cluster rest
      have candid₁ : Candid (s.withQueue rest).cluster l :=
        candid.placid (Cluster.placid_still rfl rfl rfl)
      by_cases mine : l = k
      · subst mine
        exact candid₁.consumerTurn popped.recorded (popped.attends l)
      · exact candid₁.placid
          (Cluster.placid_consumerTurn mine popped.recorded (popped.attends k) ready)
  | @swept number rest queue ready =>
      have popped := Sound.withQueue sound.cluster rest
      have candid₁ : Candid (s.withQueue rest).cluster l :=
        candid.placid (Cluster.placid_still rfl rfl rfl)
      obtain ⟨d, c₁, stage, changes, turn⟩ :=
        Cluster.dispatchTurn_swept popped.recorded popped.attends ready
      show Candid ((s.withQueue rest).cluster.dispatchTurn number) l
      rw [turn]
      exact (candid₁.placid (Cluster.placid_sweep popped.recorded changes)).placid
        (Cluster.placid_still rfl rfl rfl)
  | @resumed number call found ready =>
      rw [cluster_resumeCall]
      exact candid_resumed candid sound lived own found
  | elapsed time settled =>
      obtain ⟨more, same, -⟩ := s.stopAt_eq time
      rw [same]
      exact candid.placid (Cluster.placid_still rfl rfl rfl)

theorem candid_initial (l : setup.ListenerId) :
    Candid (Scenario.initial setup).session.cluster l := by
  have record := fresh_initial l
  have created : ∀ e ∈ (Scenario.initial setup).session.cluster.journal,
      ∃ k, e.scope = .listener k ∧ e.notice = .created k := by
    intro e mem
    obtain ⟨k, -, rfl⟩ := List.mem_map.1 mem
    exact ⟨k, rfl, rfl⟩
  have silent : saidBy l (Scenario.initial setup).session.cluster.journal = [] := by
    refine List.eq_nil_iff_forall_not_mem.2 fun notice mem => ?_
    obtain ⟨e, inside, code, -⟩ := mem_saidBy.1 mem
    obtain ⟨k, here, -⟩ := created e inside
    cases here.symm.trans code
  constructor
  case halted => rw [record]; exact fun told => absurd told Bool.false_ne_true
  case stopping => rw [record]; exact fun begun => absurd begun Bool.false_ne_true
  case warned =>
    intro e mem _ id release
    obtain ⟨k, -, notice⟩ := created e mem
    cases notice.symm.trans release
  case once => rw [record, farewells, silent]; rfl
  case truthful =>
    intro before e after split code
    obtain ⟨k, here, -⟩ := created e (by rw [split]; simp)
    cases here.symm.trans code
  case unissued => exact fun _ => by rw [handledBy, silent]; rfl
  case handled =>
    intro id own
    obtain ⟨e, mem, -, notice⟩ := mem_issued.1 own
    obtain ⟨k, -, here⟩ := created e mem
    cases here.symm.trans notice

/-- In every session that has run, listeners with consumers on their own runtimes are candid. -/
theorem Run.candid (run : Run s) (own : (setup.config l).pool = false) : Candid s.cluster l := by
  induction run with
  | refl => exact candid_initial l
  | tail before step ih =>
      exact candid_step ih (Run.sound before) (Run.lived before l) own step

end Session

/-! ## The theorem -/

/-- The messages with which a consumer says that it ends. -/
def endMessages : List String :=
  ["membership consumer shutting down", "membership subscription released and drained",
    "membership subscription closed unexpectedly"]

theorem Notice.message_mem_endMessages (notice : Notice setup) :
    notice.message ∈ endMessages ↔ notice.isFarewell = true := by
  cases notice with
  | swept s target items => by_cases none : items.isEmpty <;>
      simp [Notice.message, endMessages, Notice.isFarewell, none]
  | _ => simp [Notice.message, endMessages, Notice.isFarewell]

/-- What the consumer of a listener logs. -/
def consumerLog (least : Level) (l : setup.ListenerId) (entries : List (Entry setup)) :
    List LogEvent :=
  logOf least (entries.filter fun e => decide (e.scope = .consuming l))

/-- A log that shows what is written for debugging shows how consumers end. -/
theorem length_endMessages {least : Level} (shows : least.shows .debug = true)
    (l : setup.ListenerId) (entries : List (Entry setup)) :
    ((consumerLog least l entries).filter fun event => decide (event.message ∈ endMessages)).length =
      (farewells l entries).length := by
  have shown (notice : Notice setup) (farewell : notice.isFarewell = true) :
      least.shows notice.level = true := by
    refine Level.shows_of_le shows ?_
    cases notice <;> first | (simp [Notice.isFarewell] at farewell; done) | simp [Notice.level, Level.rank]
  rw [consumerLog, filter_logOf Notice.message_mem_endMessages shown, farewells, saidBy,
    List.filter_map, List.length_map, List.length_map]
  rfl

namespace Scenario

variable {s : Scenario setup} {l : setup.ListenerId}

/-- The consumer of a listener says how it ends, and it is true. -/
structure EndsTruthfully (s : Scenario setup) (l : setup.ListenerId) : Prop where
  /-- There is one message when it has ended, and none before. -/
  once : ∀ least : Level, least.shows .debug = true →
    ((consumerLog least l s.cluster.journal).filter fun event =>
      decide (event.message ∈ endMessages)).length =
        if (s.cluster.listener l).consumer = .ended then 1 else 0
  /-- It shuts down only if a start failed, the release of a stop failed, or the time that a stop
  has was over. -/
  shutDown : ∀ before e after, s.cluster.journal = before ++ e :: after →
    e.scope = .consuming l → e.notice.message = "membership consumer shutting down" →
      Excused l before
  /-- It has drained only if a stop had begun, its subscription was over, and every event that was
  broadcast to it was handled. -/
  drained : ∀ before e after, s.cluster.journal = before ++ e :: after →
    e.scope = .consuming l → e.notice.message = "membership subscription released and drained" →
      Wrote (.stopping l) before .stopEntered ∧
        ∃ id, issued (some l) before = [id] ∧ listedAfter id false before = false ∧
          handledBy l before = during id before
  /-- Its subscription is closed unexpectedly only if somebody else has released it. -/
  unexpected : ∀ before e after, s.cluster.journal = before ++ e :: after →
    e.scope = .consuming l → e.notice.message = "membership subscription closed unexpectedly" →
      ∃ id ∈ issued (some l) before, ∃ e ∈ before,
        e.notice = .released id ∧ e.scope.listener? ≠ some l
  /-- If nobody else releases it there is no such warning. -/
  unwarned : (∀ id ∈ issued (some l) s.cluster.journal, ∀ e ∈ s.cluster.journal,
      e.notice = .released id → e.scope.listener? = some l) →
    ∀ e ∈ s.cluster.journal, e.scope = .consuming l →
      e.notice.message ≠ "membership subscription closed unexpectedly"

/-- The messages of the end are told apart by their texts. -/
theorem eq_of_endMessage {notice farewell : Notice setup} (final : farewell.isFarewell = true)
    (said : notice.message = farewell.message) : notice = farewell := by
  have last : notice.isFarewell = true := by
    rw [← Notice.message_mem_endMessages, said, Notice.message_mem_endMessages]
    exact final
  cases farewell <;> simp [Notice.isFarewell] at final <;>
    cases notice <;> simp [Notice.isFarewell] at last <;> simp [Notice.message] at said ⊢

/-- **A consumer on the listener's own runtime says once how it ends, and it is true**, whatever
is done in a scenario, whatever fails and however long tasks are held back. -/
theorem Reached.ends_truthfully (reached : Reached s) (own : (setup.config l).pool = false) :
    EndsTruthfully s l := by
  have candid := Session.Run.candid reached.lawful.run own
  have justified {farewell : Notice setup} (final : farewell.isFarewell = true)
      (before : List (Entry setup)) (e : Entry setup) (after : List (Entry setup))
      (split : s.cluster.journal = before ++ e :: after) (code : e.scope = .consuming l)
      (said : e.notice.message = farewell.message) : Justified l before farewell :=
    eq_of_endMessage final said ▸ candid.truthful before e after split code
  have unexpected := @justified .closedUnexpectedly rfl
  constructor
  case once =>
    intro least shows
    rw [length_endMessages shows]
    exact candid.once
  case shutDown => exact @justified .consumerHalted rfl
  case drained => exact @justified .consumerDrained rfl
  case unexpected => exact unexpected
  case unwarned =>
    intro nobody e mem code said
    obtain ⟨before, after, split⟩ := List.append_of_mem mem
    obtain ⟨id, issue, e', mem', release, other⟩ := unexpected before e after split code said
    refine other (nobody id (split ▸ mem_issued_append _ issue) e' ?_ release)
    rw [split]
    exact List.mem_append_left _ mem'

/-- A listener stops, and its consumer drains; the release may fail, or somebody else may have
released before. -/
def endings (before : List (Step small)) : List (Step small) :=
  [{ op := .listener keeper .start }, { op := .store (.join ⟨"b"⟩) }] ++ before ++
    [{ op := .listener keeper .stop }]

/-- A consumer drains in a stop, shuts down when the release fails, and warns when somebody else
has released its subscription. -/
theorem ends_truthfully_endings :
    (small.config keeper).pool = false ∧
      EndsTruthfully (after small (endings [])) keeper ∧
      farewells keeper (after small (endings [])).cluster.journal = [.consumerDrained] ∧
      handledBy keeper (after small (endings [])).cluster.journal =
        [.nodeAdded ⟨"b"⟩, .nodeRemoved ⟨"a"⟩] ∧
      EndsTruthfully (after small (endings [{ op := .store (.failNext .release) }])) keeper ∧
      farewells keeper (after small (endings [{ op := .store (.failNext .release) }])).cluster.journal
        = [.consumerHalted] ∧
      EndsTruthfully (after small (endings [{ op := .store (.release ⟨0⟩) }])) keeper ∧
      farewells keeper (after small (endings [{ op := .store (.release ⟨0⟩) }])).cluster.journal =
        [.closedUnexpectedly] := by
  have own : (small.config keeper).pool = false := rfl
  refine ⟨own, (reached_after _).ends_truthfully own, by cbv, by cbv,
    (reached_after _).ends_truthfully own, by cbv, (reached_after _).ends_truthfully own, by cbv⟩

end Scenario

end Takeover
