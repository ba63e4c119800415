/-
# Takeover.Proofs.Sound -- what holds of every session that runs

A cluster is `Sound`, given the starts and stops under way, when it agrees with its
journal, every listener attends to at most one subscription and stands somewhere in
its life, and every consumer that drains is in time.  A session is sound when its
cluster is, and every consumer that has something to do is queued.

Every rule keeps a session sound (`Sound.step`), so every session that has run is
(`Run.sound`).
-/
import Takeover.Proofs.Dispatching
import Takeover.Proofs.Starting
import Takeover.Proofs.Stopping

namespace Takeover

set_option autoImplicit false

variable {setup : Setup}

namespace Cluster

/-- What holds of a cluster, given the starts and stops under way. -/
structure Sound (c : Cluster setup) (calls : setup.ListenerId → List (Call setup)) : Prop where
  recorded : Recorded c
  attends : ∀ l, Attends c l
  stands : ∀ l, Stands c l (calls l)
  inTime : ∀ l timer, Call.stop l (.draining timer) ∈ calls l → InTime c l timer

variable {licence : Licence setup} {c c' : Cluster setup} {l : setup.ListenerId}
  {calls calls' : setup.ListenerId → List (Call setup)}

/-- Nothing is different that a journal tells of, and nothing of a listener. -/
structure Alike (c c' : Cluster setup) : Prop where
  journal : c'.journal = c.journal
  store : c'.store = c.store
  subsystems : c'.subsystems = c.subsystems
  listeners : c'.listeners = c.listeners
  requested : ∀ l, c'.requested l = c.requested l

namespace Alike

theorem recorded (alike : Alike c c') (recorded : Recorded c) : Recorded c' where
  members := by rw [alike.store, alike.journal]; exact recorded.members
  subsystems s := by
    rw [subsystem, alike.subsystems, alike.journal]
    exact recorded.subsystems s
  issues := by rw [alike.store, alike.journal]; exact recorded.issues
  channels := by rw [alike.store, alike.journal]; exact recorded.channels

theorem apart (alike : Alike c c') (l : setup.ListenerId) : Apart l c c' where
  record := by rw [listener_congr alike.listeners]
  journal := continued_of_eq alike.journal
  closed _ _ closed := by rwa [alike.store]

theorem attends (alike : Alike c c') (attends : Attends c l) : Attends c' l := by
  have record := listener_congr alike.listeners l
  cases attends with
  | idle none absent unasked =>
      exact .idle (by rw [alike.journal]; exact none) (by rw [record]; exact absent)
        (by rw [alike.requested]; exact unasked)
  | reads id channel one found reads =>
      refine .reads id channel (by rw [alike.journal]; exact one) (by rw [alike.store]; exact found) ?_
      constructor
      case present => rw [record]; exact reads.present
      case reading => rw [record]; exact reads.reading
      case held => rw [record]; exact reads.held
      case own => rw [record]; exact reads.own
      case drained => rw [record, alike.journal]; exact reads.drained
      case requested => rw [alike.requested]; exact reads.requested

end Alike

namespace Sound

theorem alike (sound : Sound c calls) (alike : Alike c c')
    (inTime : ∀ l timer, Call.stop l (.draining timer) ∈ calls l → InTime c' l timer) :
    Sound c' calls where
  recorded := alike.recorded sound.recorded
  attends l := alike.attends (sound.attends l)
  stands l := (sound.stands l).apart (alike.apart l)
  inTime := inTime

/-- Something is queued, or leaves the queue, or a sweep gets further. -/
theorem still (sound : Sound c calls) (alike : Alike c c') (now : c'.now = c.now) :
    Sound c' calls :=
  sound.alike alike fun l timer call own => by
    rw [listener_congr alike.listeners, now]
    exact sound.inTime l timer call own

/-- A listener moves, and whatever it does spares the others. -/
theorem moved (sound : Sound c calls) (changes : Changes licence c c') (l : setup.ListenerId)
    (spares : ∀ k, k ≠ l → Spares licence k ∧ ¬licence.attends (some k))
    (same : ∀ k, k ≠ l → calls' k = calls k) (attends : Attends c' l)
    (stands : Stands c' l (calls' l))
    (inTime : ∀ timer, Call.stop l (.draining timer) ∈ calls' l → InTime c' l timer) :
    Sound c' calls' where
  recorded := sound.recorded.of_deeds changes.deeds
  attends k := by
    by_cases mine : k = l
    · exact mine ▸ attends
    · obtain ⟨spare, alien⟩ := spares k mine
      exact (sound.attends k).of_changes sound.recorded changes alien
        fun scope id code allowed => (spare.unlike allowed code id).1 rfl
  stands k := by
    by_cases mine : k = l
    · exact mine ▸ stands
    · rw [same k mine]
      exact (sound.stands k).apart (changes.apart (spares k mine).1 sound.recorded)
  inTime k timer call := by
    by_cases mine : k = l
    · subst mine
      exact inTime timer call
    · rw [same k mine] at call
      intro own
      rw [changes.consumer k (spares k mine).2, changes.now_eq]
      exact sound.inTime k timer call own

/-- What spares every listener keeps a cluster sound. -/
theorem of_changes (sound : Sound c calls) (changes : Changes licence c c')
    (spares : ∀ l, Spares licence l ∧ ¬licence.attends (some l)) : Sound c' calls where
  recorded := sound.recorded.of_deeds changes.deeds
  attends l := (sound.attends l).of_changes sound.recorded changes (spares l).2
    fun scope id code allowed => ((spares l).1.unlike allowed code id).1 rfl
  stands l := (sound.stands l).apart (changes.apart (spares l).1 sound.recorded)
  inTime l timer call own := by
    rw [changes.consumer l (spares l).2, changes.now_eq]
    exact sound.inTime l timer call own

/-! ### Those that spare -/

theorem spares_outside (l : setup.ListenerId) :
    Spares Licence.outside l ∧ ¬(Licence.outside : Licence setup).attends (some l) := by
  refine ⟨⟨fun h => h, ?_⟩, fun h => nomatch h⟩
  rintro scope notice ⟨rfl, may⟩
  refine ⟨may, ?_⟩
  rintro (code | code | ⟨slot, code⟩) <;> exact nomatch code

theorem spares_sweep (d : Dispatch setup) (l : setup.ListenerId) :
    Spares (.sweep d) l ∧ ¬(Licence.sweep d).attends (some l) := by
  refine ⟨⟨fun h => h, ?_⟩, fun h => h⟩
  rintro scope notice ⟨rfl, may⟩
  refine ⟨may, ?_⟩
  rintro (code | code | ⟨slot, code⟩) <;> exact nomatch code

theorem spares_start {l k : setup.ListenerId} (ne : k ≠ l) :
    Spares (.start l) k ∧ ¬(Licence.start l).attends (some k) := by
  refine ⟨⟨ne, ?_⟩, fun h => ne (Option.some.inj h)⟩
  rintro scope notice ⟨code, may⟩
  refine ⟨may, ?_⟩
  rcases code with rfl | rfl | ⟨slot, rfl⟩ <;> rintro (code | code | ⟨slot, code⟩) <;> cases code <;>
    exact ne rfl

theorem spares_stop {l k : setup.ListenerId} (ne : k ≠ l) :
    Spares (.stop l) k ∧ ¬(Licence.stop l).attends (some k) := by
  refine ⟨⟨ne, ?_⟩, fun h => h⟩
  rintro scope notice ⟨code, may⟩
  refine ⟨may, ?_⟩
  rcases code with rfl | rfl <;> rintro (code | code | ⟨slot, code⟩) <;> cases code
  exact ne rfl

theorem spares_consumer (l k : setup.ListenerId) : Spares (.consumer l) k := by
  refine ⟨fun h => h, ?_⟩
  rintro scope notice ⟨rfl, may⟩
  refine ⟨may, ?_⟩
  rintro (code | code | ⟨slot, code⟩) <;> exact nomatch code

theorem spares_pool (l : setup.ListenerId) : Spares .pool l :=
  ⟨fun h => h, fun _ _ h => absurd h id⟩

end Sound

/-! ## Calls -/

/-- The calls of a listener are its own. -/
theorem Stands.party {own : List (Call setup)} (stands : Stands c l own) :
    ∀ call ∈ own, call.party? = some l := by
  intro call mem
  cases stands <;> simp at mem <;> rw [mem] <;> rfl

theorem Attends.stop (attends : Attends c l) (recorded : Recorded c) : Attends (c.stop l).1 l := by
  refine attends.of_changes recorded (c.changes_stop l) (fun h => h) ?_
  rintro scope id - ⟨rfl | rfl, may⟩
  · exact Bool.false_ne_true may
  · rcases may with remark | ⟨other, released⟩ | left
    · exact Bool.false_ne_true remark
    · exact nomatch released
    · exact nomatch left

theorem Stands.length_le {own : List (Call setup)} (stands : Stands c l own) : own.length ≤ 1 := by
  cases stands <;> simp

theorem Stands.single {before after : List (Call setup)} {call : Call setup}
    (stands : Stands c l (before ++ call :: after)) : before = [] ∧ after = [] := by
  have short := stands.length_le
  rw [List.length_append, List.length_cons] at short
  exact ⟨List.eq_nil_of_length_eq_zero (by omega), List.eq_nil_of_length_eq_zero (by omega)⟩

/-- A start that sweeps does so for the listener's own slots. -/
theorem Stands.own {phase : StartPhase setup} (stands : Stands c l [.start l phase]) :
    StartPhase.Own l phase := by
  cases stands with
  | awaiting => trivial
  | unwinding => trivial
  | catchingUp id state settling subscribed one slots fits =>
      exact fun sweep mem => slots ▸ List.mem_map.2 ⟨sweep, mem, rfl⟩

end Cluster

/-! ## Sessions -/

namespace Session

/-- What holds of a session that runs. -/
structure Sound (s : Session setup) : Prop where
  cluster : s.cluster.Sound s.activity
  awake : s.cluster.Awake

variable {s : Session setup} {l : setup.ListenerId}

theorem callsOf_calls {progress : Progress setup} {party : Option setup.ListenerId}
    (own : ∀ call ∈ progress.calls, call.party? = party) (number : Nat) (k : setup.ListenerId) :
    callsOf k (progress.calls.map fun call => (number, call)) =
      if party = some k then progress.calls else [] := by
  cases progress with
  | finished verdict =>
      show callsOf k [] = if party = some k then [] else []
      rw [ite_self]
      rfl
  | waits call =>
      have mine := own call (List.mem_singleton.2 rfl)
      show callsOf k [(number, call)] = if party = some k then [call] else []
      split
      · rename_i same
        exact callsOf_self (mine.trans same) number
      · rename_i ne
        exact callsOf_ne (fun same => ne (mine.symm.trans same)) number

theorem activity_put {begun : Cluster setup × Progress setup} {party : Option setup.ListenerId}
    (own : ∀ call ∈ begun.2.calls, call.party? = party) (number : Nat) (k : setup.ListenerId) :
    (s.put number begun).activity k =
      s.activity k ++ if party = some k then begun.2.calls else [] := by
  rw [← callsOf_calls own number k]
  exact callsOf_append k _ _

theorem progress_of_mem_calls {progress : Progress setup} {call : Call setup}
    (mem : call ∈ progress.calls) : progress = .waits call := by
  cases progress with
  | waits other => rw [List.mem_singleton.1 mem]
  | finished verdict => exact absurd mem List.not_mem_nil

theorem put_finished (s : Session setup) (number : Nat) (c : Cluster setup) (verdict : Verdict) :
    s.put number (c, .finished verdict) = { s with cluster := c } := by
  simp [put, Progress.calls]

/-- A call that goes on stands where it stood. -/
theorem activity_resumeCall {number : Nat} {call : Call setup}
    (found : s.calls.lookup number = some call)
    (own : ∀ next ∈ (s.cluster.resume call).2.calls, next.party? = call.party?)
    (k : setup.ListenerId) :
    ∃ before after,
      s.activity k = before ++ (if call.party? = some k then [call] else []) ++ after ∧
        (s.resumeCall number call).activity k =
          before ++ (if call.party? = some k then (s.cluster.resume call).2.calls else []) ++ after := by
  obtain ⟨before, after, split, update⟩ := updateCall_eq found
  have here : callsOf k [(number, call)] = if call.party? = some k then [call] else [] :=
    @callsOf_calls _ (.waits call) _ (fun _ mem => List.mem_singleton.1 mem ▸ rfl) number k
  refine ⟨callsOf k before, callsOf k after, ?_, ?_⟩
  · rw [activity, split, List.append_cons, callsOf_append, callsOf_append, here]
  · rw [← callsOf_calls own number k, ← callsOf_append, ← callsOf_append]
    unfold resumeCall activity
    split
    · rename_i c next resumed
      dsimp only
      rw [resumed, update]
      rfl
    · rename_i c verdict resumed
      dsimp only
      rw [resumed, update]
      rfl

theorem cluster_resumeCall (s : Session setup) (number : Nat) (call : Call setup) :
    (s.resumeCall number call).cluster = (s.cluster.resume call).1 := by
  unfold resumeCall
  split <;> rename_i resumed <;> rw [resumed]

/-! ## The rules -/

theorem sound_initial : Sound (Scenario.initial setup).session := by
  have created : ∀ e ∈ (Scenario.initial setup).session.cluster.journal,
      ∃ l, e.scope = .listener l ∧ e.notice = .created l := by
    intro e mem
    obtain ⟨l, -, rfl⟩ := List.mem_map.1 mem
    exact ⟨l, rfl, rfl⟩
  have remarks : ∀ e ∈ (Scenario.initial setup).session.cluster.journal,
      e.notice.isRemark = true := by
    intro e mem
    obtain ⟨l, -, notice⟩ := created e mem
    rw [notice]
    rfl
  have unissued (party : Option setup.ListenerId) :
      issued party (Scenario.initial setup).session.cluster.journal = [] := by
    refine issued_eq_nil fun e mem id _ notice => ?_
    obtain ⟨l, -, created⟩ := created e mem
    simp [created] at notice
  have fresh (l : setup.ListenerId) :
      (Scenario.initial setup).session.cluster.listener l = ({} : Listener) := by
    show (Vector.ofFn fun _ => ({} : Listener))[l.val] = _
    exact Vector.getElem_ofFn _
  refine ⟨⟨⟨?_, fun x => ?_, ?_, fun id channel found => ?_⟩, fun l => ?_, fun l => ?_,
    fun l timer call => absurd call List.not_mem_nil⟩, fun l _ ready => ?_⟩
  · exact (live_of_remarks remarks).symm
  · rw [told_of_remarks remarks]
    show (Vector.ofFn fun s => (setup.subsystem s).initial.subsystem)[x.val] = _
    exact Vector.getElem_ofFn _
  · refine List.eq_nil_iff_forall_not_mem.2 fun id mem => ?_
    obtain ⟨e, mem, notice⟩ := mem_subscriptions.1 mem
    obtain ⟨l, -, created⟩ := created e mem
    simp [created] at notice
  · exact absurd found (by simp [Membership.Store.channel?, Scenario.initial])
  · exact .idle (unissued _) (by rw [fresh]) rfl
  · refine .new (by rw [fresh]) (by rw [fresh]) (by rw [fresh]) (by rw [fresh])
      (fun e mem => ⟨?_, fun _ id notice => ?_⟩) (unissued _)
    · obtain ⟨k, code, -⟩ := created e mem
      rw [code]
      rintro (h | h | ⟨slot, h⟩) <;> simp at h
    · obtain ⟨k, -, created⟩ := created e mem
      simp [created] at notice
  · unfold Cluster.consumerReady at ready
    rw [fresh] at ready
    exact absurd ready Bool.false_ne_true

namespace Sound

variable {number : Nat} {call : Call setup} {rest : List (Task setup)}

theorem outside (sound : Sound s) {c : Cluster setup} (changes : s.cluster.Changes .outside c) :
    Sound { s with cluster := c } where
  cluster := sound.cluster.of_changes changes Cluster.Sound.spares_outside
  awake := Cluster.AwakeBut.of_changes sound.awake changes

/-- The queue is of no concern, save to those that have something to do. -/
theorem withQueue (sound : s.cluster.Sound s.activity) (queue : List (Task setup)) :
    (s.withQueue queue).cluster.Sound (s.withQueue queue).activity :=
  sound.still ⟨rfl, rfl, rfl, rfl, fun _ => rfl⟩ rfl

theorem queued (sound : Sound s) (more : List (Task setup)) :
    Sound (s.withQueue (s.cluster.queue ++ more)) where
  cluster := withQueue sound.cluster _
  awake l other ready := List.mem_append_left _ (sound.awake l other ready)

theorem waited (sound : Sound s) (number : Nat) (alien : call.party? = none) :
    Sound { s with calls := s.calls ++ [(number, call)] } where
  cluster := by
    have same : (Session.mk s.cluster (s.calls ++ [(number, call)]) s.verdicts).activity =
        s.activity := by
      funext k
      show callsOf k (s.calls ++ [(number, call)]) = callsOf k s.calls
      rw [callsOf_append, callsOf_ne (by simp [alien]), List.append_nil]
    show s.cluster.Sound (Session.mk s.cluster (s.calls ++ [(number, call)]) s.verdicts).activity
    rw [same]
    exact sound.cluster
  awake := sound.awake

/-- A start that begins. -/
theorem started (sound : Sound s) (number : Nat) (l : setup.ListenerId) :
    Sound (s.put number (s.cluster.start l)) where
  awake := Cluster.AwakeBut.of_changes sound.awake s.cluster.changes_start
  cluster := by
    rcases Cluster.startLeaves_start sound.cluster.recorded (sound.cluster.attends l)
      (sound.cluster.stands l) with refused | ⟨idle, leaves, -⟩
    · rw [refused, put_finished]
      exact sound.cluster
    · have own := leaves.stands.party
      refine sound.cluster.moved s.cluster.changes_start l (fun k => Cluster.Sound.spares_start)
        (fun k ne => ?_) leaves.attends ?_ fun timer mem => ?_
      · rw [activity_put own, if_neg fun same => ne (Option.some.inj same).symm, List.append_nil]
      · rw [activity_put own, if_pos rfl, idle]
        exact leaves.stands
      · rw [activity_put own, if_pos rfl, idle] at mem
        obtain ⟨phase, call⟩ := leaves.goes _ mem
        exact nomatch call

/-- A stop that begins. -/
theorem stopped (sound : Sound s) (number : Nat) (l : setup.ListenerId) :
    Sound (s.put number (s.cluster.stop l)) where
  awake := Cluster.AwakeBut.of_changes sound.awake (s.cluster.changes_stop l)
  cluster := by
    rcases Cluster.stopLeaves_stop sound.cluster.recorded (sound.cluster.stands l) with
      refused | ⟨idle, leaves⟩
    · rw [refused, put_finished]
      exact sound.cluster
    · have own := leaves.stands.party
      refine sound.cluster.moved (s.cluster.changes_stop l) l (fun k => Cluster.Sound.spares_stop)
        (fun k ne => ?_) ((sound.cluster.attends l).stop sound.cluster.recorded) ?_ fun timer mem => ?_
      · rw [activity_put own, if_neg fun same => ne (Option.some.inj same).symm, List.append_nil]
      · rw [activity_put own, if_pos rfl, idle]
        exact leaves.stands
      · rw [activity_put own, if_pos rfl, idle, List.nil_append] at mem
        exact leaves.inTime timer (progress_of_mem_calls mem)

theorem poolClosed (sound : Sound s) : Sound { s with cluster := s.cluster.closePool } := by
  have changes : s.cluster.Changes .pool s.cluster.closePool :=
    s.cluster.changes_closePool fun l id begun reading => (sound.cluster.attends l).own reading
  refine ⟨⟨sound.cluster.recorded.of_deeds changes.deeds,
    Cluster.Attends.closePool sound.cluster.attends sound.cluster.recorded, fun l => ?_,
    fun l timer mem own => ?_⟩, Cluster.AwakeBut.of_changes sound.awake changes⟩
  · exact (sound.cluster.stands l).apart
      (changes.apart (Cluster.Sound.spares_pool l) sound.cluster.recorded)
  · have alien : ¬(Licence.pool : Licence setup).attends (some l) := by
      rintro ⟨k, same, pool⟩
      obtain rfl := Option.some.inj same
      exact absurd (pool.symm.trans own) (by simp)
    rw [changes.consumer l alien, changes.now_eq]
    exact sound.cluster.inTime l timer mem own

theorem awake_rest (sound : Sound s) {task : Task setup} (queue : s.cluster.queue = task :: rest)
    (other : ∀ l, task = .consumer l → ¬s.cluster.consumerReady l = true) :
    (s.withQueue rest).cluster.Awake := by
  intro l _ ready
  have queued := sound.awake l (by simp) ready
  rw [queue] at queued
  rcases List.mem_cons.1 queued with same | later
  · exact absurd ready (other l same.symm)
  · exact later

/-- A task that has nothing to do leaves the queue. -/
theorem passed (sound : Sound s) {task : Task setup} (queue : s.cluster.queue = task :: rest)
    (useless : (s.withQueue rest).Useless task) : Sound (s.withQueue rest) where
  cluster := withQueue sound.cluster _
  awake := sound.awake_rest queue fun l same => by
    subst same
    exact useless

/-- The consumer at the head of the queue has a turn. -/
theorem consumed (sound : Sound s) (queue : s.cluster.queue = .consumer l :: rest)
    (ready : (s.withQueue rest).cluster.consumerReady l = true) :
    Sound { s with cluster := (s.withQueue rest).cluster.consumerTurn l } := by
  have popped := withQueue sound.cluster rest
  have awake : (s.withQueue rest).cluster.AwakeBut (some l) := by
    intro k other ready
    have queued := sound.awake k (by simp) ready
    rw [queue] at queued
    rcases List.mem_cons.1 queued with same | later
    · injection same with same
      exact absurd (congrArg some same) other
    · exact later
  obtain ⟨id, begun, reading⟩ := Cluster.reading_of_consumerReady ready
  generalize (s.withQueue rest).cluster = c at popped awake reading ready
  have own := (popped.attends l).own reading
  obtain ⟨events, c₁, c₂, first, deeds, dispatched, last⟩ := Cluster.consumerTurn_parts reading own
  have recorded₁ := popped.recorded.of_deeds first.deeds
  have recorded₂ := recorded₁.of_deeds deeds
  refine ⟨⟨recorded₂.of_deeds last.deeds, fun k => ?_, fun k => ?_, fun k timer mem pool => ?_⟩,
    Cluster.Awake.consumerTurn awake reading own⟩
  · by_cases same : l = k
    · exact same ▸ (popped.attends l).consumerTurn popped.recorded
    · exact (popped.attends k).consumerTurn_ne popped.recorded same reading own
  · have spares := Cluster.Sound.spares_consumer l k
    have middle : Cluster.Apart k c₁ c₂ := spares.apart recorded₁ deeds (by
      rw [Cluster.listener_congr dispatched.listeners])
    exact (popped.stands k).apart (((first.apart spares popped.recorded).trans middle).trans
      (last.apart spares recorded₂))
  · have before := popped.inTime k timer mem pool
    have now : (c.consumerTurn l).now = c.now :=
      last.now_eq.trans (deeds.now_eq.trans first.now_eq)
    rw [now]
    by_cases same : l = k
    · subst same
      rw [reading] at before
      exact .inr (before.resolve_left Bool.false_ne_true)
    · have alien : ¬(Licence.consumer l).attends (some k) := fun h =>
        same (Option.some.inj h).symm
      rw [last.consumer k alien, Cluster.listener_congr dispatched.listeners, first.consumer k alien]
      exact before

/-- The dispatched sweep at the head of the queue has a turn. -/
theorem swept (sound : Sound s) (queue : s.cluster.queue = .sweep number :: rest)
    (ready : (s.withQueue rest).cluster.dispatchReady number = true) :
    Sound { s with cluster := (s.withQueue rest).cluster.dispatchTurn number } := by
  have popped := withQueue sound.cluster rest
  have awake := sound.awake_rest queue fun l h => nomatch h
  generalize (s.withQueue rest).cluster = c at popped awake ready
  obtain ⟨d, c₁, stage, changes, turn⟩ := Cluster.dispatchTurn_swept popped.recorded popped.attends ready
  have moved := popped.of_changes changes (Cluster.Sound.spares_sweep d)
  have still : c₁.Awake := Cluster.AwakeBut.of_changes awake changes
  rw [turn]
  exact ⟨moved.still ⟨rfl, rfl, rfl, rfl, c₁.requested_setStage number stage⟩ rfl, still⟩

/-- The call of a listener that is under way is the only one. -/
theorem activity_of_found (sound : Sound s) (found : s.calls.lookup number = some call)
    (mine : call.party? = some l) : s.activity l = [call] := by
  obtain ⟨before, after, split, -⟩ := updateCall_eq found
  have here : s.activity l = callsOf l before ++ call :: callsOf l after := by
    rw [activity, split, List.append_cons, callsOf_append, callsOf_append,
      callsOf_self mine, List.append_assoc]
    rfl
  have stands := sound.cluster.stands l
  rw [here] at stands
  obtain ⟨none, none'⟩ := stands.single
  rw [here, none, none']
  rfl

/-- The call that goes on is the only one of its listener, before and after. -/
theorem activity_resumed (sound : Sound s) (found : s.calls.lookup number = some call)
    (mine : call.party? = some l)
    (own : ∀ next ∈ (s.cluster.resume call).2.calls, next.party? = some l) :
    (s.resumeCall number call).activity l = (s.cluster.resume call).2.calls ∧
      ∀ k, k ≠ l → (s.resumeCall number call).activity k = s.activity k := by
  have own' : ∀ next ∈ (s.cluster.resume call).2.calls, next.party? = call.party? :=
    fun next mem => (own next mem).trans mine.symm
  refine ⟨?_, fun k ne => ?_⟩
  · obtain ⟨before, after, same, same'⟩ := activity_resumeCall found own' l
    rw [mine, if_pos rfl] at same same'
    have stands := sound.cluster.stands l
    rw [same, List.append_assoc] at stands
    obtain ⟨rfl, rfl⟩ := stands.single
    rw [same', List.append_nil, List.nil_append]
  · obtain ⟨before, after, same, same'⟩ := activity_resumeCall found own' k
    have alien : ¬call.party? = some k := fun h => ne (Option.some.inj (h.symm.trans mine))
    rw [if_neg alien] at same same'
    rw [same, same']

/-- A call that goes on keeps to the licence of its party. -/
theorem changes_resume (sound : Sound s) (found : s.calls.lookup number = some call) :
    s.cluster.Changes call.licence (s.cluster.resume call).1 := by
  cases call with
  | start l phase =>
      have stands : s.cluster.Stands l [.start l phase] :=
        sound.activity_of_found found rfl ▸ sound.cluster.stands l
      exact s.cluster.changes_resumeStart stands.own
  | stop l phase =>
      exact (s.cluster.changes_resumeStop l phase).mono (Licence.returning_le_stop l)
  | sweep x target timer => exact s.cluster.changes_resumeSweep x target
  | awaitReady x =>
      show s.cluster.Changes .outside (s.cluster.awaitReady x).1
      rw [Cluster.fst_awaitReady]
      exact .refl _ _
  | awaitEnd l =>
      show s.cluster.Changes .outside (s.cluster.awaitEnd l).1
      rw [Cluster.fst_awaitEnd]
      exact .refl _ _

/-- A start that goes on. -/
theorem resumed_start (sound : Sound s) {phase : StartPhase setup}
    (found : s.calls.lookup number = some (.start l phase)) :
    Sound (s.resumeCall number (.start l phase)) := by
  have stands : s.cluster.Stands l [.start l phase] :=
    sound.activity_of_found found rfl ▸ sound.cluster.stands l
  have leaves := Cluster.startLeaves_resumeStart sound.cluster.recorded (sound.cluster.attends l)
    stands
  obtain ⟨here, others⟩ := sound.activity_resumed found rfl leaves.stands.party
  have changes : s.cluster.Changes (.start l) (s.cluster.resume (.start l phase)).1 :=
    sound.changes_resume found
  constructor
  case awake =>
    rw [cluster_resumeCall]
    exact Cluster.AwakeBut.of_changes sound.awake changes
  case cluster =>
    rw [cluster_resumeCall]
    refine sound.cluster.moved changes l (fun k => Cluster.Sound.spares_start) others leaves.attends
      ?_ fun timer mem => ?_
    · rw [here]
      exact leaves.stands
    · rw [here] at mem
      obtain ⟨phase, call⟩ := leaves.goes _ mem
      exact nomatch call

/-- A stop that goes on. -/
theorem resumed_stop (sound : Sound s) {phase : StopPhase}
    (found : s.calls.lookup number = some (.stop l phase)) :
    Sound (s.resumeCall number (.stop l phase)) := by
  have active := sound.activity_of_found found rfl
  have stands : s.cluster.Stands l [.stop l phase] := active ▸ sound.cluster.stands l
  have leaves := Cluster.stopLeaves_resumeStop sound.cluster.recorded stands fun timer same =>
    sound.cluster.inTime l timer (by rw [active, same]; exact List.mem_singleton.2 rfl)
  obtain ⟨here, others⟩ := sound.activity_resumed found rfl leaves.stands.party
  have returning := s.cluster.changes_resumeStop l phase
  have changes : s.cluster.Changes (.stop l) (s.cluster.resume (.stop l phase)).1 :=
    sound.changes_resume found
  constructor
  case awake =>
    rw [cluster_resumeCall]
    exact Cluster.AwakeBut.of_changes sound.awake changes
  case cluster =>
    rw [cluster_resumeCall]
    refine sound.cluster.moved changes l (fun k => Cluster.Sound.spares_stop) others
      ((sound.cluster.attends l).returning sound.cluster.recorded returning) ?_ fun timer mem => ?_
    · rw [here]
      exact leaves.stands
    · rw [here] at mem
      exact leaves.inTime timer (progress_of_mem_calls mem)

/-- A call that is no listener's start or stop goes on. -/
theorem resumed_other (sound : Sound s) (found : s.calls.lookup number = some call)
    (alien : call.party? = none)
    (changes : s.cluster.Changes .outside (s.cluster.resume call).1)
    (own : ∀ next ∈ (s.cluster.resume call).2.calls, next.party? = none) :
    Sound (s.resumeCall number call) := by
  have same : (s.resumeCall number call).activity = s.activity := by
    funext k
    obtain ⟨before, after, here, here'⟩ := activity_resumeCall found
      (fun next mem => (own next mem).trans alien.symm) k
    rw [here, here', alien, if_neg (by simp), if_neg (by simp)]
  constructor
  case awake =>
    rw [cluster_resumeCall]
    exact Cluster.AwakeBut.of_changes sound.awake changes
  case cluster =>
    rw [cluster_resumeCall, same]
    exact sound.cluster.of_changes changes Cluster.Sound.spares_outside

theorem resumed (sound : Sound s) (found : s.calls.lookup number = some call) :
    Sound (s.resumeCall number call) := by
  have changes := sound.changes_resume found
  cases call with
  | start l phase => exact sound.resumed_start found
  | stop l phase => exact sound.resumed_stop found
  | sweep x target timer =>
      exact sound.resumed_other found rfl changes fun _ mem => absurd mem List.not_mem_nil
  | awaitReady x =>
      exact sound.resumed_other found rfl changes (s.cluster.alien_awaitReady x)
  | awaitEnd l =>
      exact sound.resumed_other found rfl changes (s.cluster.alien_awaitEnd l)

/-- The clock moves only when nobody has anything to do, so whoever drains is over by then. -/
theorem elapsed (sound : Sound s) (time : Nat) (settled : s.cluster.queue = []) :
    Sound (s.stopAt time) := by
  obtain ⟨more, same, -⟩ := s.stopAt_eq time
  rw [same]
  constructor
  case awake => exact fun l other ready => List.mem_append_left _ (sound.awake l other ready)
  case cluster =>
    refine sound.cluster.alike ⟨rfl, rfl, rfl, rfl, fun _ => rfl⟩ fun l timer mem own => .inl ?_
    have stands := sound.cluster.stands l
    have active : s.activity l = [.stop l (.draining timer)] := by
      obtain ⟨before, after, split⟩ := List.append_of_mem mem
      rw [split] at stands
      obtain ⟨rfl, rfl⟩ := stands.single
      exact split
    rw [active] at stands
    cases stands with
    | stopping id state leaving =>
        have ended : (s.cluster.listener l).consumer.isOver = true :=
          Cluster.over_of_settled sound.awake settled (sound.cluster.attends l) own leaving.one
            leaving.ending
        exact ended

end Sound

/-- Every rule keeps a session sound. -/
theorem Sound.step {s s' : Session setup} (sound : Sound s) (step : Step s s') : Sound s' := by
  cases step with
  | outside changes => exact sound.outside changes
  | queued more idle => exact sound.queued more
  | waited number alien => exact sound.waited number alien
  | started number l => exact sound.started number l
  | stopped number l => exact sound.stopped number l
  | poolClosed => exact sound.poolClosed
  | passed queue useless => exact sound.passed queue useless
  | consumed queue ready => exact sound.consumed queue ready
  | swept queue ready => exact sound.swept queue ready
  | resumed found ready => exact sound.resumed found
  | elapsed time settled => exact sound.elapsed time settled

/-- **Every session that has run is sound.** -/
theorem Run.sound {s : Session setup} (run : Run s) : Sound s := by
  induction run with
  | refl => exact sound_initial
  | tail _ step ih => exact ih.step step

end Session

end Takeover
