/-
# Takeover.Proofs.Departures -- no departure is missed

A node that is not live either never was, or left, and has not come back since its
most recent departure (`Missing`).  A listener that runs meets it (`Met`): its
startup sweep asked for everybody who was not live, this node among them, or its
subscription was in the store when the departure was broadcast, and then a sweep was
dispatched that has asked (`met_of_missing`).

What a listener's sweep asked for after the departure is what a maintainer looks for
(`Reached.asked_of_missing`).
-/
import Takeover.Proofs.Calls

namespace Takeover

set_option autoImplicit false

open Recovery (Kind Target)

variable {setup : Setup}

/-! ## Who is live -/

namespace Notice

theorem mem_onMembers {notice : Notice setup} {n : NodeId} {members : NodeSet} :
    n ∈ notice.onMembers members ↔
      notice = .entered n ∨ n ∈ members ∧ ∀ told, notice ≠ .left n told := by
  cases notice with
  | entered node =>
      simp only [onMembers, NodeSet.mem_insert, entered.injEq, reduceCtorEq, ne_eq, not_false_eq_true,
        implies_true, and_true]
      exact or_congr_left eq_comm
  | left node told =>
      simp only [onMembers, NodeSet.mem_erase, reduceCtorEq, false_or]
      refine and_congr_right fun _ => ⟨fun ne told' same => ?_, fun ne same => ?_⟩
      · exact ne (left.inj same).1.symm
      · exact ne told (by rw [same])
  | _ => simp [onMembers]

end Notice

theorem mem_foldl_onMembers {n : NodeId} {members : NodeSet} {entries : List (Entry setup)}
    (live : n ∈ members) (stays : ∀ e ∈ entries, ∀ told, e.notice ≠ .left n told) :
    n ∈ entries.foldl (fun members e => e.notice.onMembers members) members := by
  induction entries generalizing members with
  | nil => exact live
  | cons e rest ih =>
      exact ih (Notice.mem_onMembers.2 (.inr ⟨live, stays e List.mem_cons_self⟩))
        fun e mem => stays e (List.mem_cons_of_mem _ mem)

theorem not_mem_foldl_onMembers {n : NodeId} {members : NodeSet} {entries : List (Entry setup)}
    (gone : ¬n ∈ members) (absent : ∀ e ∈ entries, e.notice ≠ .entered n) :
    ¬n ∈ entries.foldl (fun members e => e.notice.onMembers members) members := by
  induction entries generalizing members with
  | nil => exact gone
  | cons e rest ih =>
      refine ih (fun mem => ?_) fun e mem => absent e (List.mem_cons_of_mem _ mem)
      rcases Notice.mem_onMembers.1 mem with entered | ⟨live, -⟩
      · exact absent e List.mem_cons_self entered
      · exact gone live

/-- The most recent departure of a node, whether subscribers were told, and what was written since. -/
structure Departed (n : NodeId) (told : Bool) (entries since : List (Entry setup)) : Prop where
  split : ∃ before time scope, entries = before ++ ⟨time, scope, .left n told⟩ :: since
  last : ∀ e ∈ since, ∀ told, e.notice ≠ .left n told

/-- A node that is not live has not come back since its most recent departure. -/
theorem Departed.absent {n : NodeId} {told : Bool} {entries since : List (Entry setup)}
    (departed : Departed n told entries since) (gone : ¬n ∈ live entries) :
    ∀ e ∈ since, e.notice ≠ .entered n := by
  intro e mem entered
  obtain ⟨before, time, scope, rfl⟩ := departed.split
  obtain ⟨first, later, rfl⟩ := List.append_of_mem mem
  refine gone ?_
  rw [List.append_cons, ← List.append_assoc, live_append, List.foldl_cons]
  exact mem_foldl_onMembers (Notice.mem_onMembers.2 (.inl entered)) fun e mem =>
    departed.last e (List.mem_append_right _ (List.mem_cons_of_mem _ mem))

/-- The startup sweep for a slot took its snapshot within the entries: it asks in the same breath. -/
def CaughtUpWithin (l : setup.ListenerId) (slot : Kind) (entries : List (Entry setup)) : Prop :=
  ∃ e ∈ entries, e.scope = .catchingUp l slot ∧ ∃ x target, e.notice = .asked x target

/-- A node that is missing, and what was written since it is: it never was live, or it left, by any
means before a listener's startup sweep looked, and later so that subscribers were told. -/
inductive Missing (l : setup.ListenerId) (slot : Kind) (n : NodeId) (entries : List (Entry setup)) :
    List (Entry setup) → Prop
  | never (initially : ¬n ∈ setup.members) (never : ∀ e ∈ entries, e.notice ≠ .entered n) :
      Missing l slot n entries entries
  | departed {told : Bool} {since : List (Entry setup)} (departed : Departed n told entries since)
      (noticed : told = true ∨ CaughtUpWithin l slot since) : Missing l slot n entries since

theorem Missing.suffix {l : setup.ListenerId} {slot : Kind} {n : NodeId}
    {entries since : List (Entry setup)} (missing : Missing l slot n entries since) :
    since <:+ entries := by
  cases missing with
  | never => exact List.suffix_refl _
  | departed departed =>
      obtain ⟨before, time, scope, split⟩ := departed.split
      exact split ▸ (List.suffix_cons _ _).trans (List.suffix_append _ _)

/-! ## How a listener meets a departure -/

section

variable (l : setup.ListenerId) (id : Membership.SubscriptionId) (slot : Kind)
  (x : setup.SubsystemId) (n : NodeId) (entries since : List (Entry setup))

/-- A listener asked a subsystem to recover the work of a node that is missing: at its start, when
the node was not live, or by a sweep that was dispatched for it. -/
inductive Met : Prop
  | atStart (before after : List (Entry setup)) (snapshot : Snapshot l id slot x entries before after)
      (gone : ¬n ∈ live before)
      (asked : ∃ first time, since =
        first ++ ⟨time, .catchingUp l slot, .asked x (.allExcept (live before))⟩ :: after)
      (swept : Spared x entries →
        ∃ e ∈ after, ∃ items, e.notice = .swept x (.allExcept (live before)) items)
  | whenTold (asked : ⟨.sweeping l slot n, x, .single n⟩ ∈ sweepAsksOf l since)

end

variable {l : setup.ListenerId} {id : Membership.SubscriptionId} {slot : Kind}
  {x : setup.SubsystemId} {n : NodeId} {entries since before after : List (Entry setup)}

/-- A departure comes before the snapshot of a startup sweep, or after its request. -/
theorem Snapshot.before_or_after (snapshot : Snapshot l id slot x entries before after)
    {pre : List (Entry setup)} {time : Nat} {scope : Scope setup} {told : Bool}
    (split : entries = pre ++ ⟨time, scope, .left n told⟩ :: since) :
    (∃ mid time', before = pre ++ ⟨time, scope, .left n told⟩ :: mid ∧
      since = mid ++ ⟨time', .catchingUp l slot, .catchingUp (live before).size⟩ ::
        ⟨time', .catchingUp l slot, .asked x (.allExcept (live before))⟩ :: after) ∨
      ((∃ mid, after = mid ++ ⟨time, scope, .left n told⟩ :: since) ∧
        ∃ mid, pre = before ++ mid) := by
  obtain ⟨time', whole⟩ := snapshot.split
  rcases split_of_append (whole.symm.trans split) with ⟨mid, early, late⟩ | ⟨rest, early, late⟩
  · exact .inl ⟨mid, time', early, late⟩
  · refine .inr ⟨?_, rest, early⟩
    match rest with
    | [] => exact nomatch (List.cons.inj late).1
    | [e] => exact nomatch (List.cons.inj (List.cons.inj late).2).1
    | e :: e' :: mid => exact ⟨mid, (List.cons.inj (List.cons.inj late).2).2⟩

/-- What is called for beyond what was asked early is asked late. -/
theorem mem_of_append_eq {α : Type} {early late called now rest : List α} {a : α}
    (same : early ++ late = called ++ now ++ rest) (before : early <+: called) (mem : a ∈ now) :
    a ∈ late := by
  obtain ⟨missing, rfl⟩ := before
  rw [List.append_assoc, List.append_assoc, List.append_cancel_left_eq] at same
  rw [same]
  exact List.mem_append_right _ (List.mem_append_left _ mem)

/-- A departure calls for a sweep of every filled slot. -/
theorem mem_requests_departed (present : (slot, x) ∈ setup.present l) (other : n ≠ setup.node l) :
    (⟨.sweeping l slot n, x, .single n⟩ : Ask setup) ∈ Cluster.requests l [.nodeRemoved n] :=
  Cluster.mem_requests.2 ⟨slot, x, n, List.mem_singleton.2 rfl, other, present, rfl⟩

/-- A departure that was broadcast while the store had the subscription has been asked for. -/
theorem asked_of_told {pre : List (Entry setup)} {time : Nat} {scope : Scope setup}
    (split : entries = pre ++ ⟨time, scope, .left n true⟩ :: since)
    (timely : Timely l entries) (one : issued (some l) entries = [id])
    (asked : sweepAsksOf l entries = Cluster.requests l (during id entries))
    (listed : listedAfter id false pre = true) (present : (slot, x) ∈ setup.present l)
    (other : n ≠ setup.node l) :
    ⟨.sweeping l slot n, x, .single n⟩ ∈ sweepAsksOf l since := by
  have early : sweepAsksOf l pre <+: Cluster.requests l (during id pre) := by
    rcases timely pre (split ▸ List.prefix_append _ _) with none | ⟨id', issue, called⟩
    · exact none ▸ List.nil_prefix
    · have same : id' ∈ issued (some l) entries := split ▸ mem_issued_append _ issue
      rw [one, List.mem_singleton] at same
      exact same ▸ called
  have heard : during id entries = during id pre ++ [.nodeRemoved n] ++ heard id true since := by
    rw [split, during_append, listed, List.append_assoc]
    rfl
  have silent : sweepAsksOf l entries = sweepAsksOf l pre ++ sweepAsksOf l since := by
    rw [split, sweepAsksOf_append]
    rfl
  rw [silent, heard, Cluster.requests_append, Cluster.requests_append] at asked
  exact mem_of_append_eq asked early (mem_requests_departed present other)

/-- **No departure is missed**: a listener that serves meets every node that is missing. -/
theorem met_of_missing {c : Cluster setup} (serves : c.Serves l id)
    (timely : Timely l c.journal)
    (asked : sweepAsksOf l c.journal = Cluster.requests l (during id c.journal))
    (kept : ∀ e ∈ c.journal, e.notice ≠ .released id) (present : (slot, x) ∈ setup.present l)
    (other : n ≠ setup.node l) (gone : ¬n ∈ live c.journal)
    (missing : Missing l slot n c.journal since) : Met l id slot x n c.journal since := by
  obtain ⟨before, after, snapshot, swept⟩ := serves.swept slot x present
  cases missing with
  | never initially never =>
      obtain ⟨time, split⟩ := snapshot.split
      refine .atStart before after snapshot ?_ ⟨_, time, split.trans (List.append_cons _ _ _)⟩ swept
      exact not_mem_foldl_onMembers initially fun e mem => never e (by simp [split, mem])
  | @departed told since departed noticed =>
      obtain ⟨pre, time, scope, split⟩ := departed.split
      rcases snapshot.before_or_after split with ⟨mid, time', early, late⟩ | ⟨⟨mid, late⟩, mid', early⟩
      · refine .atStart before after snapshot ?_ ⟨_, time', late.trans (List.append_cons _ _ _)⟩ swept
        rw [early, live_append, List.foldl_cons]
        refine not_mem_foldl_onMembers (fun mem => ?_) fun e mem =>
          departed.absent gone e (by simp [late, mem])
        rcases Notice.mem_onMembers.1 mem with entered | ⟨-, stays⟩
        · exact nomatch entered
        · exact stays told rfl
      · rcases noticed with rfl | ⟨e, mem, code, y, target, notice⟩
        · refine .whenTold (asked_of_told split timely serves.one asked ?_ present other)
          refine listedAfter_eq_true ?_ fun e mem => kept e (by simp [split, mem])
          obtain ⟨e, mem, -, notice⟩ := mem_issued.1 snapshot.subscribed
          exact ⟨e, early ▸ List.mem_append_left _ mem, notice⟩
        · exact absurd notice (snapshot.once e (by simp [late, mem]) code y target)

/-- Whoever is met was asked for. -/
theorem Met.asked (met : Met l id slot x n entries since) :
    ∃ ask ∈ asks since, ask.subsystem = x ∧ ask.scope.listener? = some l ∧ ask.target.Covers n := by
  cases met with
  | atStart before after snapshot gone asked =>
      obtain ⟨first, time, rfl⟩ := asked
      refine ⟨⟨.catchingUp l slot, x, .allExcept (live before)⟩, ?_, rfl, rfl, gone⟩
      exact mem_asks.2 ⟨_, List.mem_append_right _ List.mem_cons_self, rfl, rfl⟩
  | whenTold asked =>
      exact ⟨_, (List.mem_filter.1 (List.mem_filter.1 asked).1).1, rfl, rfl, rfl⟩

namespace Scenario

/-- Once nothing is left to do, a listener that runs has met every node that is missing, provided
that nobody else released its subscription. -/
theorem Reached.met {s : Scenario setup} (reached : Reached s) (settled : s.cluster.queue = [])
    (own : (setup.config l).pool = false) (running : (s.cluster.listener l).state = .running)
    (kept : ∀ e ∈ s.cluster.journal, ∀ id ∈ issued (some l) s.cluster.journal,
      e.notice = .released id → e.scope.listener? = some l)
    (present : (slot, x) ∈ setup.present l) (other : n ≠ setup.node l)
    (gone : ¬n ∈ s.cluster.store.members) (missing : Missing l slot n s.cluster.journal since) :
    ∃ id, Met l id slot x n s.cluster.journal since := by
  have run := reached.lawful.run
  have sound : s.cluster.Sound s.session.activity := reached.sound.cluster
  obtain ⟨id, serves, settling⟩ := (sound.stands l).serves_of_running running
  refine ⟨id, met_of_missing serves (Session.Run.timely run l)
    (Session.Run.asked_settled run settled own serves) (fun e mem released => ?_) present other
    (sound.recorded.members ▸ gone) missing⟩
  have mine := kept e mem id (by simp [serves.one]) released
  exact settling.kept e mem mine id released

/-- **No departure is missed between the snapshot and the stream of events.**  Once nothing is left
to do, every subsystem of a listener that runs was asked by it to recover the work of every other
node that is missing, and was asked since the node is. -/
theorem Reached.asked_of_missing {s : Scenario setup} (reached : Reached s)
    (settled : s.cluster.queue = []) (own : (setup.config l).pool = false)
    (running : (s.cluster.listener l).state = .running)
    (kept : ∀ e ∈ s.cluster.journal, ∀ id ∈ issued (some l) s.cluster.journal,
      e.notice = .released id → e.scope.listener? = some l)
    (present : (slot, x) ∈ setup.present l) (other : n ≠ setup.node l)
    (gone : ¬n ∈ s.cluster.store.members) (missing : Missing l slot n s.cluster.journal since) :
    ∃ ask ∈ asks since, ask.subsystem = x ∧ ask.scope.listener? = some l ∧ ask.target.Covers n ∧
      ask.target ∈ (s.cluster.subsystem x).calls := by
  have sound : s.cluster.Sound s.session.activity := reached.sound.cluster
  obtain ⟨id, met⟩ := reached.met settled own running kept present other gone missing
  obtain ⟨ask, mem, about, asker, covers⟩ := met.asked
  refine ⟨ask, mem, about, asker, covers, ?_⟩
  obtain ⟨first, whole⟩ := missing.suffix
  rw [sound.recorded.calls_eq, ← whole, asksOf_append]
  exact List.mem_map_of_mem (List.mem_append_right _ (List.mem_filter.2 ⟨mem, by simp [about]⟩))

/-- In the small scenario the node that is lost is asked for after it left. -/
theorem asked_of_missing_loss :
    ∃ ask ∈ asks (lossJournal.drop 20), ask.subsystem = tasks ∧
      ask.scope.listener? = some keeper ∧ ask.target.Covers ⟨"b"⟩ ∧
        ask.target ∈ ((Scenario.after small loss).cluster.subsystem tasks).calls := by
  have missing : Missing keeper .task ⟨"b"⟩ (Scenario.after small loss).cluster.journal
      (lossJournal.drop 20) := by
    rw [journal_loss]
    exact .departed ⟨⟨lossJournal.take 19, 0, .outside, rfl⟩, by simp [lossJournal]⟩ (.inl rfl)
  refine (reached_after loss).asked_of_missing settled_loss rfl running_loss ?_ (by decide)
    (by decide) (by rw [members_loss]; simp) missing
  rw [journal_loss]
  simp [lossJournal]

end Scenario

end Takeover
