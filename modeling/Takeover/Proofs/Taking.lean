/-
# Takeover.Proofs.Taking -- whose work a sweep takes

A sweep does not look at the live set when it acts.  It takes the work of whoever its
target covers, and the target was fixed when the sweep was asked for: by the snapshot
of a startup sweep, or by a departure that was broadcast to the listener.  Which
departure that was follows from the order of the requests: they are made in the order
in which departures call for them, so each belongs to one departure (`CalledFor`).
The sweep that acts is the one that made the request (`Cause`).

What a sweep takes then from a node that is live it takes from one that has come back
since, or whose departure was told while it was live (`Reached.taken`).

So a node that leaves and comes back can lose what it owns, also what it was given
after it came back, if a sweep for it is delayed (`taken_from_live`).  A node that stays
loses it when somebody tells that it has left (`taken_from_staying`).
-/
import Takeover.Proofs.Recovering
import Takeover.Proofs.Sweeping.Authors
import Takeover.Proofs.Sweeping.Startup

namespace Takeover

set_option autoImplicit false

open Recovery (Kind Target Subsystem WorkId)

variable {setup : Setup}

/-! ## What a sweep moves -/

/-- The owner of an item, where work is held in memory. -/
def Recovery.Subsystem.ownerOf (x : Subsystem) (w : WorkId) : Option NodeId :=
  x.ledger?.bind fun ledger => ledger.owners.get? w

theorem Recovery.Subsystem.ownerOf_of_ledger {x : Subsystem} {ledger : Recovery.Ledger}
    (backing : x.backing = .ledger ledger) (w : WorkId) :
    x.ownerOf w = ledger.owners.get? w := by
  unfold ownerOf ledger?
  rw [backing]
  rfl

section

variable {x : setup.SubsystemId} {w : WorkId} {n : NodeId} {before : List (Entry setup)}
  {e : Entry setup}

/-- At an entry a sweep of a subsystem moves an item away from its owner. -/
structure Takes (x : setup.SubsystemId) (w : WorkId) (n : NodeId) (before : List (Entry setup))
    (e : Entry setup) : Prop where
  swept : ∃ target items, e.notice = .swept x target items
  owned : (told x before).ownerOf w = some n
  moved : (told x (before ++ [e])).ownerOf w ≠ some n

/-- A sweep takes from nodes that its target covers. -/
theorem Takes.covers (takes : Takes x w n before e) :
    ∃ target items, e.notice = .swept x target items ∧ target.Covers n := by
  obtain ⟨⟨target, items, notice⟩, owned, moved⟩ := takes
  refine ⟨target, items, notice, ?_⟩
  have after : told x (before ++ [e]) =
      (told x before).onLedger fun ledger => ledger.claim target := by
    rw [told_append, List.foldl_cons, List.foldl_nil, notice]
    simp [Notice.onSubsystem, Notice.subsystem?, Notice.change]
  rw [after] at moved
  cases backing : (told x before).backing with
  | script rest => simp [Subsystem.ownerOf, Subsystem.ledger?, backing] at owned
  | ledger ledger =>
      rw [Subsystem.ownerOf_of_ledger backing] at owned
      rw [Subsystem.ownerOf_of_ledger (Subsystem.backing_onLedger backing _),
        Recovery.Ledger.get?_claim, owned, Option.map_some] at moved
      by_cases takes : ledger.Takes target n
      · exact takes.2
      · rw [if_neg takes] at moved
        exact absurd rfl moved

end

/-! ## What a request was called for by -/

/-- What was heard on a subscription was broadcast while the store had it, each event after those
that were heard before it. -/
theorem split_of_heard {id : Membership.SubscriptionId} {listed : Bool}
    {entries : List (Entry setup)} {earlier later : List Membership.Event} {event : Membership.Event}
    (split : heard id listed entries = earlier ++ event :: later) :
    ∃ first e rest, entries = first ++ e :: rest ∧ heard id listed first = earlier ∧
      listedAfter id listed first = true ∧ e.notice.event? = some event := by
  induction entries generalizing listed earlier with
  | nil => exact absurd split.symm (by simp [heard])
  | cons e rest ih =>
      rw [heard] at split
      rcases split_of_append split with ⟨after, now, -⟩ | ⟨earlier', rfl, split'⟩
      · cases listed with
        | false => exact absurd now.symm (by simp)
        | true =>
            cases told : e.notice.event? with
            | none => simp [told] at now
            | some other =>
                have one : earlier ++ event :: after = [other] := by simpa [told] using now.symm
                obtain ⟨rfl, rfl, -⟩ : earlier = [] ∧ event = other ∧ after = [] := by
                  simpa [List.append_eq_singleton_iff] using one
                exact ⟨[], e, rest, rfl, rfl, rfl, told⟩
      · obtain ⟨first, e', rest', rfl, before, listed', told⟩ := ih split'
        exact ⟨e :: first, e', rest', rfl, by rw [heard, before], listed', told⟩

/-- A request is called for by one of the events, after what those before it call for. -/
theorem split_of_requests {l : setup.ListenerId} {events : List Membership.Event}
    {others later : List (Ask setup)} {ask : Ask setup}
    (split : Cluster.requests l events = others ++ ask :: later) :
    ∃ first event rest ahead behind, events = first ++ event :: rest ∧
      Cluster.requests l [event] = ahead ++ ask :: behind ∧
        others = Cluster.requests l first ++ ahead := by
  induction events generalizing others with
  | nil => exact absurd split.symm (by simp [Cluster.requests])
  | cons event rest ih =>
      rw [← List.singleton_append, Cluster.requests_append] at split
      rcases split_of_append split with ⟨behind, here, -⟩ | ⟨others', rfl, split'⟩
      · exact ⟨[], event, rest, others, behind, rfl, here, rfl⟩
      · obtain ⟨first, event', rest', ahead, behind, rfl, here, rfl⟩ := ih split'
        refine ⟨event :: first, event', rest', ahead, behind, rfl, here, ?_⟩
        rw [show event :: first = [event] ++ first from rfl, Cluster.requests_append,
          List.append_assoc]

/-- A request of a listener to sweep a slot for a node, made after some entries, was called for by
one of them: the departure of the node was broadcast while the store had the listener's
subscription.  What the listener's sweeps had asked for until then is what the events before that
departure called for, and then what the departure called for ahead of this request. -/
structure CalledFor (l : setup.ListenerId) (slot : Kind) (x : setup.SubsystemId) (n : NodeId)
    (first : List (Entry setup)) (cause : Entry setup) (mid : List (Entry setup)) : Prop where
  told : cause.notice.event? = some (.nodeRemoved n)
  place : ∃ id ∈ issued (some l) (first ++ cause :: mid), listedAfter id false first = true ∧
    ∃ ahead behind, Cluster.requests l [.nodeRemoved n] =
        ahead ++ ⟨.sweeping l slot n, x, .single n⟩ :: behind ∧
      sweepAsksOf l (first ++ cause :: mid) = Cluster.requests l (during id first) ++ ahead

/-- Every request of a dispatched sweep was called for. -/
theorem Timely.calledFor {l : setup.ListenerId} {entries early late : List (Entry setup)}
    {asking : Entry setup} (timely : Timely l entries) (split : entries = early ++ asking :: late)
    {slot : Kind} {n : NodeId} (code : asking.scope = .sweeping l slot n) {x : setup.SubsystemId}
    {target : Target} (asked : asking.notice = .asked x target) :
    target = .single n ∧ (slot, x) ∈ setup.present l ∧
      ∃ first cause mid, early = first ++ cause :: mid ∧ CalledFor l slot x n first cause mid := by
  have one : sweepAsksOf l [asking] = [⟨.sweeping l slot n, x, target⟩] := by
    simp [sweepAsksOf, sweepAsks, asks, Entry.ask?, asked, code, Scope.isSweeping, Scope.listener?]
  have whole : sweepAsksOf l (early ++ [asking]) =
      sweepAsksOf l early ++ [⟨.sweeping l slot n, x, target⟩] := by rw [sweepAsksOf_append, one]
  rcases timely (early ++ [asking]) ⟨late, by rw [split]; simp⟩ with none | ⟨id, own, later, called⟩
  · rw [whole] at none
    exact absurd none (by simp)
  · -- the request is called for by an event, and the event was broadcast by an entry
    rw [whole, List.append_assoc] at called
    obtain ⟨events, event, rest, ahead, behind, heard, here, others⟩ :=
      split_of_requests called.symm
    have inside : (⟨.sweeping l slot n, x, target⟩ : Ask setup) ∈ Cluster.requests l [event] :=
      here ▸ List.mem_append_right _ List.mem_cons_self
    obtain ⟨slot', x', node, received, -, present, same⟩ := Cluster.mem_requests.1 inside
    obtain ⟨code', rfl, rfl⟩ := Ask.mk.inj same
    obtain ⟨-, rfl, rfl⟩ := Scope.sweeping.inj code'
    obtain rfl := List.mem_singleton.1 received
    obtain ⟨first, cause, mid, there, before, listed, told⟩ := split_of_heard heard
    refine ⟨rfl, present, ?_⟩
    rcases split_of_append there with ⟨mid', rfl, rfl⟩ | ⟨none, -, last⟩
    · refine ⟨first, cause, mid', rfl, told, id, ?_, listed, ahead, behind, here, ?_⟩
      · obtain ⟨e, mem, issuer, issues⟩ := mem_issued.1 own
        refine mem_issued.2 ⟨e, (List.mem_append.1 mem).resolve_right fun here => ?_, issuer, issues⟩
        obtain rfl := List.mem_singleton.1 here
        cases asked.symm.trans issues
      · rw [others, during, before]
    · -- the request itself tells nobody of a departure
      have same : asking = cause := by
        cases none with
        | nil => exact (List.cons.inj last).1
        | cons _ none => exact absurd (List.cons.inj last).2 (by simp)
      simp [← same, asked, Notice.event?] at told

namespace Scenario

section

variable {s : Scenario setup} {x : setup.SubsystemId} {w : WorkId} {n : NodeId}
  {before after : List (Entry setup)} {e : Entry setup}

/-! ## Why a sweep is for a node -/

/-- What a listener had to go by when the sweep that writes an entry was asked to take the work of a
node, what had been written before it, and what has been written since. -/
inductive Cause (s : Scenario setup) (x : setup.SubsystemId) (n : NodeId)
    (before : List (Entry setup)) (e : Entry setup) (first : List (Entry setup))
    (cause : Entry setup) (since : List (Entry setup)) : Prop
  /-- A startup sweep found that the node was not live, and it has asked for nothing else. -/
  | absent (l : setup.ListenerId) (slot : Kind) (code : e.scope = .catchingUp l slot)
      (asker : cause.scope = e.scope) (asked : cause.notice = .asked x (.allExcept (live first)))
      (once : startupAsks l slot before = [⟨e.scope, x, .allExcept (live first)⟩])
      (gone : ¬n ∈ live first)
  /-- The departure of the node called for the request of the dispatched sweep that acts. -/
  | departed (l : setup.ListenerId) (slot : Kind) (code : e.scope = .sweeping l slot n)
      (number : Nat) (acts : WrittenBy s number before e) (mid : List (Entry setup))
      (asking : Entry setup) (late : List (Entry setup)) (split : since = mid ++ asking :: late)
      (asks : WrittenBy s number (first ++ cause :: mid) asking) (asker : asking.scope = e.scope)
      (asked : asking.notice = .asked x (.single n))
      (count : (sweepAsks (first ++ cause :: mid)).length = number)
      (called : CalledFor l slot x n first cause mid)

/-- What is live after the cause of a sweep has come back since, unless its departure was told
while it was live. -/
theorem Cause.back {first since : List (Entry setup)} {cause : Entry setup}
    (why : Cause s x n before e first cause since) (lives : n ∈ live (first ++ cause :: since)) :
    (∃ e' ∈ since, e'.notice = .entered n) ∨ cause.notice = .toldAgain n ∧ n ∈ live first := by
  by_cases back : ∃ e' ∈ since, e'.notice = .entered n
  · exact .inl back
  · have still : n ∈ cause.notice.onMembers (live first) := by
      refine Decidable.byContradiction fun gone => ?_
      rw [live_append, List.foldl_cons] at lives
      exact not_mem_foldl_onMembers gone (fun e mem entered => back ⟨e, mem, entered⟩) lives
    rcases Notice.mem_onMembers.1 still with entered | ⟨earlier, stays⟩
    · cases why with
      | absent l slot code asker asked => cases entered.symm.trans asked
      | departed l slot code number acts mid asking late split asks asker asked count called =>
          exact absurd called.told (by simp [entered, Notice.event?])
    · cases why with
      | absent l slot code asker asked once gone => exact absurd earlier gone
      | departed l slot code number acts mid asking late split asks asker asked count called =>
          have told := called.told
          refine .inr ⟨?_, earlier⟩
          cases notice : cause.notice with
          | toldAgain node => simp_all [Notice.event?]
          | left node told' => cases told' <;> simp_all [Notice.event?]
          | _ => simp [notice, Notice.event?] at told

/-- What a startup sweep takes had been missing in its snapshot. -/
theorem Reached.cause_of_catchUp (reached : Reached s)
    (split : s.cluster.journal = before ++ e :: after) (founded : Founded before)
    {l : setup.ListenerId} {slot : Kind} (code : e.scope = .catchingUp l slot) {target : Target}
    (asked : ⟨e.scope, x, target⟩ ∈ asks before) (covers : target.Covers n) :
    ∃ first cause since, before = first ++ cause :: since ∧
      Cause s x n before e first cause since := by
  obtain ⟨cause, mem, asker, notice⟩ := mem_asks.1 asked
  obtain ⟨first, since, whole⟩ := List.append_of_mem mem
  have rests := founded first cause since whole
  unfold Entry.RestsUpon at rests
  rw [notice] at rests
  obtain rfl : target = .allExcept (live first) := rests l slot (asker.trans code)
  have once : startupAsks l slot before = [⟨e.scope, x, .allExcept (live first)⟩] :=
    Session.Run.startupAsks_eq reached.lawful.run split
      (List.mem_filter.2 ⟨asked, decide_eq_true code⟩)
  exact ⟨first, cause, since, whole, .absent l slot code asker notice once covers⟩

/-- What a dispatched sweep takes had been called for by a departure. -/
theorem Reached.cause_of_sweep (reached : Reached s)
    (split : s.cluster.journal = before ++ e :: after) {l : setup.ListenerId} {slot : Kind}
    {node : NodeId} (code : e.scope = .sweeping l slot node) {target : Target}
    {items : List Recovery.Recovered} (swept : e.notice = .swept x target items)
    (asked : ⟨e.scope, x, target⟩ ∈ asks before) (covers : target.Covers n) :
    ∃ first cause since, before = first ++ cause :: since ∧
      Cause s x n before e first cause since := by
  have run := reached.lawful.run
  have timely : Timely l before := by
    have whole : Timely l s.cluster.journal := Session.Run.timely run l
    exact (split ▸ whole).earlier
  have sweeping : e.scope.isSweeping = true := by rw [code]; rfl
  -- the sweep is for the node of its scope, whichever request it was
  obtain rfl : node = n := by
    obtain ⟨e', mem, asker, notice⟩ := mem_asks.1 asked
    obtain ⟨early, late, whole⟩ := List.append_of_mem mem
    obtain ⟨rfl, -⟩ := timely.calledFor whole (asker.trans code) notice
    exact covers
  obtain ⟨number, acts⟩ := reached.author split sweeping
  obtain ⟨early, asking, late, whole, asker, ⟨y, target', notice⟩, count, asks⟩ :=
    acts.request reached split sweeping (by simp [swept])
  obtain ⟨rfl, present, first, cause, mid, rfl, called⟩ :=
    timely.calledFor whole (asker.trans code) notice
  obtain rfl : y = x := by
    have may := Session.Run.signed run e
      (show e ∈ s.cluster.journal by rw [split]; exact List.mem_append_right _ List.mem_cons_self)
    have present' : (slot, x) ∈ setup.present l := by
      simpa [code, swept, Scope.MayWrite, Notice.isRemark, Notice.subsystem?] using may
    exact Cluster.present_unique present present'
  refine ⟨first, cause, mid ++ asking :: late, by rw [whole, List.append_assoc]; rfl, ?_⟩
  exact .departed l slot code number acts mid asking late rfl asks asker notice count called

/-- **Whose work is taken.**  When a sweep of a listener moves an item away from its owner, the
owner had been missing in the snapshot for that sweep, or its departure had been broadcast on the
listener's subscription and called for the request of that very sweep.  If the owner is live when
it happens, it entered the live set since, or its departure was told again while it was live. -/
theorem Reached.taken (reached : Reached s) (split : s.cluster.journal = before ++ e :: after)
    (undirected : e.scope ≠ .outside) (takes : Takes x w n before e) :
    ∃ first cause since, before = first ++ cause :: since ∧
      Cause s x n before e first cause since ∧
        (n ∈ live before → (∃ e' ∈ since, e'.notice = .entered n) ∨
          cause.notice = .toldAgain n ∧ n ∈ live first) := by
  have run := reached.lawful.run
  obtain ⟨target, items, notice, covers⟩ := takes.covers
  have founded : Founded (before ++ e :: after) := split ▸ Session.Run.founded run
  have signed : Signed (before ++ e :: after) := split ▸ Session.Run.signed run
  have asked : ⟨e.scope, x, target⟩ ∈ asks before := by
    have rests := founded before e after rfl
    unfold Entry.RestsUpon at rests
    rw [notice] at rests
    exact rests.resolve_left undirected
  have asked' : (⟨e.scope, x, target⟩ : Ask setup) ∈ asksOf x before :=
    List.mem_filter.2 ⟨asked, decide_eq_true rfl⟩
  obtain ⟨first, cause, since, whole, why⟩ : ∃ first cause since,
      before = first ++ cause :: since ∧ Cause s x n before e first cause since := by
    rcases signed.earlier.asker asked' with outside | ⟨l, slot, -, code | ⟨node, code⟩⟩
    · exact absurd outside undirected
    · exact reached.cause_of_catchUp split founded.earlier code asked covers
    · exact reached.cause_of_sweep split code notice asked covers
  exact ⟨first, cause, since, whole, why, fun lives => why.back (whole ▸ lives)⟩

end

/-- Another node dies, comes back while the sweep for it is delayed, and then the sweep acts. -/
def comeback : List (Step small) :=
  [{ op := .store (.join ⟨"b"⟩) }, { op := .subsystem tasks (.assign "w" ⟨"b"⟩) },
    { op := .listener keeper .start }, { op := .subsystem tasks (.setSweepDelay 10) },
    { op := .store (.crash ⟨"b"⟩) }, { op := .store (.join ⟨"b"⟩) }, { op := .advance 10 }]

/-- What is written down until the sweep acts. -/
def comebackJournal : List (Entry small) :=
  lossJournal.take 18 ++
  [⟨0, .outside, .sweepsDelayed tasks 10⟩,
    ⟨0, .outside, .crashing ⟨"b"⟩⟩,
    ⟨0, .outside, .left ⟨"b"⟩ true⟩,
    ⟨0, .consuming keeper, .nodeLeft ⟨"b"⟩⟩,
    ⟨0, .sweeping keeper .task ⟨"b"⟩, .asked tasks (.single ⟨"b"⟩)⟩,
    ⟨0, .outside, .entered ⟨"b"⟩⟩,
    ⟨0, .consuming keeper, .nodeJoined ⟨"b"⟩⟩]

/-- The sweep acts. -/
def comebackSwept : Entry small :=
  ⟨10, .sweeping keeper .task ⟨"b"⟩, .swept tasks (.single ⟨"b"⟩) [⟨"w", ⟨"b"⟩⟩]⟩

theorem journal_comeback : (after small comeback).cluster.journal =
    comebackJournal ++ comebackSwept ::
      [⟨10, .sweeping keeper .task ⟨"b"⟩, .answered tasks (.single ⟨"b"⟩) .done⟩,
        ⟨10, .sweeping keeper .task ⟨"b"⟩, .sweepComplete .task (.single ⟨"b"⟩)⟩] := by cbv

theorem takes_comeback : Takes tasks "w" ⟨"b"⟩ comebackJournal comebackSwept where
  swept := ⟨_, _, rfl⟩
  owned := by cbv
  moved := by
    have home : (told tasks (comebackJournal ++ [comebackSwept])).ownerOf "w" = some ⟨"a"⟩ := by cbv
    rw [home]
    simp

theorem live_comeback : (⟨"b"⟩ : NodeId) ∈ live comebackJournal := by
  have members : live comebackJournal = .ofList [⟨"a"⟩, ⟨"b"⟩] := by cbv
  rw [members]
  simp

/-- The node that comes back has entered the live set since its departure was told. -/
theorem taken_comeback : ⟨"b"⟩ ∈ live comebackJournal ∧
    ∃ first cause since, comebackJournal = first ++ cause :: since ∧
      Cause (after small comeback) tasks ⟨"b"⟩ comebackJournal comebackSwept first cause since ∧
        ∃ e ∈ since, e.notice = .entered ⟨"b"⟩ := by
  obtain ⟨first, cause, since, split, why, back⟩ :=
    (reached_after comeback).taken journal_comeback (fun same => nomatch same) takes_comeback
  have once : ∀ e ∈ comebackJournal, e.notice ≠ .toldAgain ⟨"b"⟩ := by
    simp [comebackJournal, lossJournal]
  have mem : cause ∈ comebackJournal := split ▸ List.mem_append_right _ List.mem_cons_self
  refine ⟨live_comeback, first, cause, since, split, why, ?_⟩
  exact (back live_comeback).resolve_right fun again => once cause mem again.1

/-- A node that is live loses an item to a sweep of a listener, though nobody asked for a sweep
directly. -/
theorem taken_from_live : ¬∀ s : Scenario small, Reached s →
    (∀ e ∈ s.cluster.journal, ∀ x target, e.notice = .asked x target → e.scope ≠ .outside) →
      ∀ x w n before e after', s.cluster.journal = before ++ e :: after' → Takes x w n before e →
        ¬n ∈ live before := by
  intro never
  refine never (after small comeback) (reached_after comeback) ?_ tasks "w" ⟨"b"⟩ comebackJournal
    comebackSwept _ journal_comeback takes_comeback live_comeback
  rw [journal_comeback]
  simp [comebackJournal, comebackSwept, lossJournal]

/-- What is written down until the sweep acts, when the departure of a node is told that is live. -/
def rumourJournal : List (Entry small) :=
  lossJournal.take 18 ++
  [⟨0, .outside, .toldAgain ⟨"b"⟩⟩,
    ⟨0, .consuming keeper, .nodeLeft ⟨"b"⟩⟩,
    ⟨0, .sweeping keeper .task ⟨"b"⟩, .asked tasks (.single ⟨"b"⟩)⟩]

/-- A node that has never left loses its item too, when its departure is told. -/
theorem taken_from_staying : ∃ e after', (after small
      (loss.take 3 ++ [{ op := .store (.redeliver ⟨"b"⟩) }])).cluster.journal =
        rumourJournal ++ e :: after' ∧
    Takes tasks "w" ⟨"b"⟩ rumourJournal e ∧ ⟨"b"⟩ ∈ live rumourJournal ∧
      ∀ e' ∈ rumourJournal, ∀ told, e'.notice ≠ .left ⟨"b"⟩ told := by
  let swept : Entry small :=
    ⟨0, .sweeping keeper .task ⟨"b"⟩, .swept tasks (.single ⟨"b"⟩) [⟨"w", ⟨"b"⟩⟩]⟩
  have home : (told tasks (rumourJournal ++ [swept])).ownerOf "w" = some ⟨"a"⟩ := by cbv
  have members : live rumourJournal = .ofList [⟨"a"⟩, ⟨"b"⟩] := by cbv
  refine ⟨swept, _, by cbv, ⟨⟨_, _, rfl⟩, by cbv, ?_⟩, ?_, ?_⟩
  · rw [home]
    simp
  · rw [members]
    simp
  · simp [rumourJournal, lossJournal]

end Scenario

end Takeover
