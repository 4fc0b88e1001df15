import SampledEviction.Proofs.Keyspace.Reachable

/-!
# The worker beside the keyspace

The thread of a keyspace and the worker of its reclaimer take turns in any order, a move at a time.
What was sent and what was settled is kept beside them, so that a charge can be followed from the
one list to the other.

* `Sound.step` — what one move of either keeps
* `Step.work_lt` — a queue that is closed is worked off
* `released_once` — every charge is settled once, in order, and no earlier than it is counted
-/

namespace SampledEviction.Keyspace

/-! ## Moves -/

/-- The charges that a move puts in the queue. -/
def Move.jobs : Move → List Nat
  | .send bytes => [bytes]
  | _ => []

/-- How often a move counts a value. -/
def Move.announcements : Move → Nat
  | .announce => 1
  | _ => 0

/-- The charge that the worker has received and not yet settled. -/
def Worker.inHand : Worker → List Nat
  | .settle bytes => [bytes]
  | _ => []

/-- The number of values that the worker has received and not yet confirmed. -/
def Worker.busy : Worker → Nat
  | .receive => 0
  | _ => 1

/-- The moves that the worker has to make before it receives another value. -/
def Worker.left : Worker → Nat
  | .receive => 0
  | .settle _ => 2
  | .confirm => 1

variable {todo : List Move} {ks : Keyspace} {r r' : Reclaimer}

theorem announcements_removalMoves (ks : Keyspace) (shard : Nat) (key : Bytes) (deferred : Bool) :
    tally Move.announcements (ks.removalMoves shard key deferred)
      = tally (fun m => m.jobs.length) (ks.removalMoves shard key deferred) := by
  unfold removalMoves
  split
  · rfl
  · dsimp only
    split <;> rfl

/-- What an operation counts it also sends. -/
theorem announcements_moves (ks : Keyspace) (op : Operation) :
    tally Move.announcements (ks.moves op)
      = tally (fun m => m.jobs.length) (ks.moves op) := by
  cases op with
  | set shard key value ttl now =>
    simp only [moves]
    split
    · split <;> rfl
    · rfl
  | get shard key now =>
    simp only [moves]
    split
    · exact ks.announcements_removalMoves shard key false
    · rfl
  | remove shard key deferred => exact ks.announcements_removalMoves shard key deferred
  | expire shard key ttl now =>
    simp only [moves]
    split <;> rfl
  | persist shard key =>
    simp only [moves]
    split <;> rfl

/-- The charge that is counted, and is the next to be sent. -/
def announced : List Move → List Nat
  | .send bytes :: _ => [bytes]
  | _ => []

/-- What an operation has to send is counted, or it still has to count it. -/
theorem Plan.length_announced {background : Bool} (h : Plan background todo) :
    (announced todo).length + tally Move.announcements todo
      = tally (fun m => m.jobs.length) todo := by
  cases h <;> simp [announced, Move.announcements, Move.jobs]

theorem exists_reclaimer_of_move {m : Move} (hr' : (ks.move m).reclaimer = some r') :
    ∃ r, ks.reclaimer = some r := by
  cases m with
  | add bytes => exact ⟨r', hr'⟩
  | sub bytes => exact ⟨r', hr'⟩
  | announce =>
    obtain ⟨r, hr, -⟩ := Option.map_eq_some_iff.mp hr'
    exact ⟨r, hr⟩
  | send bytes =>
    obtain ⟨r, hr, -⟩ := Option.map_eq_some_iff.mp hr'
    exact ⟨r, hr⟩

/-! ## Threads -/

/-- Whether the use of a keyspace goes on. -/
inductive Phase where
  | open
  /-- The keyspace is dropped: no value will be sent, and its thread waits for the worker. -/
  | closed
  /-- The worker has ended. -/
  | joined
  deriving DecidableEq

/-- A keyspace between two moves of its thread and its worker. -/
structure Threads where
  keyspace : Keyspace
  /-- The moves that the operation at hand still has to make. -/
  todo : List Move
  /-- The charges sent so far, the oldest first. -/
  sent : List Nat
  /-- The charges settled so far, the oldest first. -/
  settled : List Nat
  phase : Phase

namespace Threads

/-- A keyspace that no thread is at work on. -/
def idle (ks : Keyspace) : Threads := ⟨ks, [], [], [], .open⟩

/-- The moves that may come next. -/
inductive Step (t : Threads) : Threads → Prop where
  /-- The thread enters an operation in the tables. -/
  | enter (hopen : t.phase = .open) (hidle : t.todo = []) (op : Operation)
    (hfits : (t.keyspace.perform op).held < Word.modulus) :
    Step t { t with keyspace := t.keyspace.entered op, todo := t.keyspace.moves op }
  /-- The thread makes the next move of its operation. -/
  | move {m : Move} {rest : List Move} (htodo : t.todo = m :: rest) :
    Step t { t with keyspace := t.keyspace.move m, todo := rest, sent := t.sent ++ m.jobs }
  /-- The worker receives a value. -/
  | receive {r : Reclaimer} {bytes : Nat} {rest : List Nat} (hr : t.keyspace.reclaimer = some r)
    (hworker : r.worker = .receive) (hqueue : r.queue = bytes :: rest) :
    Step t { t with keyspace := { t.keyspace with reclaimer := some r.receive } }
  /-- The worker settles the charge of the value. -/
  | settle {r : Reclaimer} {bytes : Nat} (hr : t.keyspace.reclaimer = some r)
    (hworker : r.worker = .settle bytes) :
    Step t { t with
      keyspace := { t.keyspace with
        reclaimer := some (r.settle t.keyspace.memory).1
        memory := (r.settle t.keyspace.memory).2 }
      settled := t.settled ++ [bytes] }
  /-- The worker confirms that. -/
  | confirm {r : Reclaimer} (hr : t.keyspace.reclaimer = some r) (hworker : r.worker = .confirm) :
    Step t { t with keyspace := { t.keyspace with reclaimer := some r.confirm } }
  /-- The thread closes the queue. -/
  | close (hopen : t.phase = .open) (hidle : t.todo = []) : Step t { t with phase := .closed }
  /-- The worker finds the queue closed and empty, and ends. -/
  | stop {r : Reclaimer} (hclosed : t.phase = .closed) (hr : t.keyspace.reclaimer = some r)
    (hworker : r.worker = .receive) (hqueue : r.queue = []) : Step t { t with phase := .joined }

/-- The states that moves lead to from an empty keyspace. -/
inductive Reachable : Threads → Prop where
  | create {o : Options} {ks : Keyspace} (h : Keyspace.create o = .ok ks) : Reachable (idle ks)
  | step {t t' : Threads} (h : Reachable t) (hstep : t.Step t') : Reachable t'

variable {t t' : Threads} {sent settled : List Nat}

/-! ## What every move keeps -/

/-- Every charge sent is settled, in hand or in the queue, and every value is counted from before
it is sent until after it is settled. -/
structure Booked (todo : List Move) (sent settled : List Nat) (r : Reclaimer) : Prop where
  sent : sent = settled ++ (r.worker.inHand ++ r.queue)
  pending : r.pending + tally Move.announcements todo
    = tally (fun m => m.jobs.length) todo + r.queue.length + r.worker.busy

/-- What holds of a keyspace between any two moves. -/
structure Sound (t : Threads) : Prop where
  midway : Midway t.keyspace t.todo
  booked : ∀ {r : Reclaimer}, t.keyspace.reclaimer = some r → Booked t.todo t.sent t.settled r
  idle : t.phase ≠ .open → t.todo = []
  joined : t.phase = .joined → ∀ {r : Reclaimer}, t.keyspace.reclaimer = some r →
    r.worker = .receive ∧ r.queue = []

theorem sound_create {o : Options} {ks : Keyspace} (h : Keyspace.create o = .ok ks) :
    (idle ks).Sound where
  midway := (sound_of_create h).midway
  booked {r} hr := by
    have hfresh : r = {} := by
      simp only [idle] at hr
      rw [(created_of_create h).reclaimer] at hr
      split at hr
      · exact (Option.some.inj hr).symm
      · cases hr
    rw [hfresh]
    exact ⟨rfl, rfl⟩
  idle _ := rfl
  joined h := by cases h

/-- An operation that is entered is booked with what it will count and send. -/
theorem Booked.enter (h : Booked [] sent settled r)
    (htodo : tally Move.announcements todo = tally (fun m => m.jobs.length) todo) :
    Booked todo sent settled r := by
  obtain ⟨hsent, hpending⟩ := h
  rw [tally_nil, tally_nil] at hpending
  exact ⟨hsent, by omega⟩

/-- A value that the thread counts or sends is booked. -/
theorem Booked.move {m : Move} (h : Booked (m :: todo) sent settled r)
    (hr : ks.reclaimer = some r) (hr' : (ks.move m).reclaimer = some r') :
    Booked todo (sent ++ m.jobs) settled r' := by
  obtain ⟨hsent, hpending⟩ := h
  cases m with
  | add bytes =>
    obtain rfl : r = r' := Option.some.inj (hr.symm.trans hr')
    refine ⟨by simpa [Move.jobs] using hsent, ?_⟩
    simpa [Move.jobs, Move.announcements] using hpending
  | sub bytes =>
    obtain rfl : r = r' := Option.some.inj (hr.symm.trans hr')
    refine ⟨by simpa [Move.jobs] using hsent, ?_⟩
    simpa [Move.jobs, Move.announcements] using hpending
  | announce =>
    obtain rfl : r.announce = r' := by simpa [Keyspace.move, hr] using hr'
    have hcounted : r.pending + (1 + tally Move.announcements todo)
        = 0 + tally (fun m => m.jobs.length) todo + r.queue.length + r.worker.busy := hpending
    refine ⟨(List.append_nil _).trans hsent, ?_⟩
    show r.pending + 1 + _ = _ + r.queue.length + r.worker.busy
    omega
  | send bytes =>
    obtain rfl : r.send bytes = r' := by simpa [Keyspace.move, hr] using hr'
    have hcounted : r.pending + (0 + tally Move.announcements todo)
        = 1 + tally (fun m => m.jobs.length) todo + r.queue.length + r.worker.busy := hpending
    refine ⟨by simp [Move.jobs, hsent, Reclaimer.send], ?_⟩
    show r.pending + _ = _ + (r.queue ++ [bytes]).length + r.worker.busy
    rw [List.length_append, List.length_singleton]
    omega

theorem Booked.receive {bytes : Nat} {rest : List Nat} (h : Booked todo sent settled r)
    (hworker : r.worker = .receive) (hqueue : r.queue = bytes :: rest) :
    Booked todo sent settled r.receive := by
  obtain ⟨hsent, hpending⟩ := h
  rw [hworker, hqueue] at hsent hpending
  rw [Reclaimer.receive_eq hworker hqueue]
  exact ⟨hsent, hpending⟩

theorem Booked.settle {bytes : Nat} (h : Booked todo sent settled r)
    (hworker : r.worker = .settle bytes) (memory : Counter) :
    Booked todo sent (settled ++ [bytes]) (r.settle memory).1 := by
  obtain ⟨hsent, hpending⟩ := h
  rw [hworker] at hsent hpending
  rw [Reclaimer.settle_eq hworker]
  exact ⟨by simpa [Worker.inHand] using hsent, hpending⟩

theorem Booked.confirm (h : Booked todo sent settled r) (hworker : r.worker = .confirm)
    {background : Bool} (hplan : Plan background todo) :
    Booked todo sent settled r.confirm := by
  obtain ⟨hsent, hpending⟩ := h
  rw [hworker] at hsent hpending
  have hcounted : r.pending + tally Move.announcements todo
      = tally (fun m => m.jobs.length) todo + r.queue.length + 1 := hpending
  have hannounced := hplan.length_announced
  rw [Reclaimer.confirm_eq hworker]
  refine ⟨hsent, ?_⟩
  show r.pending - 1 + _ = _ + r.queue.length + 0
  omega

/-- What one move of either keeps. -/
theorem Sound.step (h : t.Sound) (hstep : t.Step t') : t'.Sound := by
  obtain ⟨hmidway, hbooked, hidle, hjoined⟩ := h
  cases hstep with
  | enter hopen hnone op hfits =>
    rw [hnone] at hmidway
    refine ⟨hmidway.sound.enter op fun _ _ => hfits, fun {r} hr => ?_, fun hphase => ?_,
      fun hphase => ?_⟩
    · have hbooked := hbooked (r := r) hr
      rw [hnone] at hbooked
      exact hbooked.enter (t.keyspace.announcements_moves op)
    · exact absurd hopen hphase
    · cases hopen.symm.trans hphase
  | move htodo =>
    rw [htodo] at hmidway
    refine ⟨hmidway.move, fun hr' => ?_, fun hphase => ?_, fun hphase => ?_⟩
    · obtain ⟨r, hr⟩ := exists_reclaimer_of_move hr'
      have hbooked := hbooked hr
      rw [htodo] at hbooked
      exact hbooked.move hr hr'
    · rw [hidle hphase] at htodo
      cases htodo
    · rw [hidle (by rw [hphase]; decide)] at htodo
      cases htodo
  | receive hr hworker hqueue =>
    refine ⟨hmidway.receive hr, fun hr' => ?_, hidle, fun hphase => ?_⟩
    · cases hr'
      exact (hbooked hr).receive hworker hqueue
    · have hempty := (hjoined hphase hr).2
      rw [hqueue] at hempty
      cases hempty
  | settle hr hworker =>
    refine ⟨hmidway.settle hr, fun hr' => ?_, hidle, fun hphase => ?_⟩
    · cases hr'
      exact (hbooked hr).settle hworker _
    · cases hworker.symm.trans (hjoined hphase hr).1
  | confirm hr hworker =>
    refine ⟨hmidway.confirm hr, fun hr' => ?_, hidle, fun hphase => ?_⟩
    · cases hr'
      exact (hbooked hr).confirm hworker hmidway.plan
    · cases hworker.symm.trans (hjoined hphase hr).1
  | close hopen hnone =>
    exact ⟨hmidway, fun hr => hbooked hr, fun _ => hnone, fun hphase => by cases hphase⟩
  | stop hclosed hr hworker hqueue =>
    refine ⟨hmidway, fun hr => hbooked hr, fun _ => hidle (by rw [hclosed]; decide),
      fun _ r' hr' => ?_⟩
    cases hr.symm.trans hr'
    exact ⟨hworker, hqueue⟩

theorem Reachable.sound (h : t.Reachable) : t.Sound := by
  induction h with
  | create h => exact sound_create h
  | step _ hstep ih => exact ih.step hstep

/-! ## The end -/

/-- The moves that the worker has to make until it ends. -/
def work (t : Threads) : Nat :=
  (t.keyspace.reclaimer.map fun r => 3 * r.queue.length + r.worker.left).getD 0
    + if t.phase = .joined then 0 else 1

theorem work_eq (hr : t.keyspace.reclaimer = some r) :
    t.work = 3 * r.queue.length + r.worker.left + if t.phase = .joined then 0 else 1 := by
  unfold work
  rw [hr]
  rfl

/-- Once the queue is closed, every move is one of the worker on its way to the end. -/
theorem Step.work_lt (h : t.Step t') (hs : t.Sound) (hclosed : t.phase = .closed) :
    t'.work < t.work ∧ t'.phase ≠ .open := by
  have hgone : t.todo = [] := hs.idle (by rw [hclosed]; decide)
  cases h with
  | enter hopen hidle op hfits => cases hclosed.symm.trans hopen
  | move htodo => cases hgone.symm.trans htodo
  | @receive r bytes rest hr hworker hqueue =>
    refine ⟨?_, by rw [hclosed]; decide⟩
    rw [work_eq hr, work_eq (r := r.receive) rfl, Reclaimer.receive_eq hworker hqueue, hworker,
      hqueue]
    simp only [Worker.left, List.length_cons]
    omega
  | @settle r bytes hr hworker =>
    refine ⟨?_, by rw [hclosed]; decide⟩
    rw [work_eq hr, work_eq (r := (r.settle t.keyspace.memory).1) rfl,
      Reclaimer.settle_eq hworker, hworker]
    simp only [Worker.left]
    omega
  | @confirm r hr hworker =>
    refine ⟨?_, by rw [hclosed]; decide⟩
    rw [work_eq hr, work_eq (r := r.confirm) rfl, Reclaimer.confirm_eq hworker, hworker]
    simp only [Worker.left]
    omega
  | close hopen hidle => cases hclosed.symm.trans hopen
  | @stop r hopen hr hworker hqueue =>
    refine ⟨?_, by simp⟩
    rw [work_eq hr, work_eq (t := { t with phase := .joined }) hr, hclosed]
    simp

/-- A worker that has not ended finds something to do. -/
theorem exists_step (hclosed : t.phase = .closed) (hr : t.keyspace.reclaimer = some r) :
    ∃ t', t.Step t' := by
  cases hworker : r.worker with
  | receive =>
    cases hqueue : r.queue with
    | nil => exact ⟨_, .stop hclosed hr hworker hqueue⟩
    | cons bytes rest => exact ⟨_, .receive hr hworker hqueue⟩
  | settle bytes => exact ⟨_, .settle hr hworker⟩
  | confirm => exact ⟨_, .confirm hr hworker⟩

/-! ## What is released -/

/-- The charges of the values that are counted and not yet settled. -/
def unsettled (t : Threads) (r : Reclaimer) : List Nat :=
  r.worker.inHand ++ r.queue ++ announced t.todo

theorem Booked.length_le {background : Bool} (h : Booked t.todo sent settled r)
    (hplan : Plan background t.todo) : (t.unsettled r).length ≤ r.pending := by
  have hpending := h.pending
  have hannounced := hplan.length_announced
  have hinHand : r.worker.inHand.length ≤ r.worker.busy := by
    cases r.worker <;> simp [Worker.inHand, Worker.busy]
  unfold unsettled
  rw [List.length_append, List.length_append]
  omega

/-- Where nothing is to be released, the counter shows what the keys are charged for. -/
theorem Sound.bytes_of_idle (h : t.Sound) (htodo : t.todo = [])
    (hr : t.keyspace.reclaimer = some r) (hworker : r.worker = .receive) (hqueue : r.queue = []) :
    t.keyspace.memory.bytes = t.keyspace.charged := by
  have hsound : t.keyspace.Sound := Midway.sound (htodo ▸ h.midway)
  have houtstanding : r.outstanding = 0 := by
    unfold Reclaimer.outstanding
    rw [hworker, hqueue]
    rfl
  rw [hsound.bytes]
  unfold held
  rw [hr]
  exact congrArg (t.keyspace.charged + ·) houtstanding

/-- Whatever the order of moves, every charge sent is settled once, in the order of sending, and
none is more than the counter shows. A value is counted as pending as long as its charge is not
settled, so once none is, and no operation is at hand, the counter shows what the keys are charged
for, and the worker has nothing to do that could change it. After a drop all charges sent are
settled; on the way there every move brings the worker nearer to its end, and there is always one
to be made. -/
theorem released_once (h : t.Reachable) (hr : t.keyspace.reclaimer = some r) :
    t.sent = t.settled ++ (r.worker.inHand ++ r.queue) ∧
    (∀ bytes, r.worker = .settle bytes → bytes ≤ t.keyspace.memory.bytes) ∧
    (∀ bytes rest, t.todo = .sub bytes :: rest → bytes ≤ t.keyspace.memory.bytes) ∧
    (t.unsettled r).length ≤ r.pending ∧
    (t.todo = [] → r.pending = 0 →
      t.keyspace.memory.bytes
          = tally (fun s : Shard =>
              tally (fun e => charge e.1 e.2.value (s.deadlines.contains e.1)) s.main.toList)
            t.keyspace.shards.toList ∧
        r.worker = .receive ∧ r.queue = []) ∧
    (t.phase = .joined → t.settled = t.sent ∧ t.keyspace.memory.bytes
      = tally (fun s : Shard =>
          tally (fun e => charge e.1 e.2.value (s.deadlines.contains e.1)) s.main.toList)
        t.keyspace.shards.toList) ∧
    (t.phase = .closed →
      (∃ t', t.Step t') ∧ ∀ t', t.Step t' → t'.work < t.work ∧ t'.phase ≠ .open) := by
  have hsound := h.sound
  obtain ⟨hsent, hpending⟩ := hsound.booked hr
  have howed : r.outstanding ≤ t.keyspace.memory.bytes := by
    simpa [hr, owed] using hsound.midway.owed_le
  refine ⟨hsent, fun bytes hworker => ?_, fun bytes rest htodo => ?_,
    (hsound.booked hr).length_le hsound.midway.plan, fun htodo hzero => ?_, fun hjoined => ?_,
    fun hclosed => ⟨exists_step hclosed hr, fun t' hstep => hstep.work_lt hsound hclosed⟩⟩
  · have hsettled := Reclaimer.outstanding_settle hworker
    omega
  · exact Midway.sub_le (htodo ▸ hsound.midway)
  · rw [htodo, hzero, tally_nil, tally_nil] at hpending
    have hqueue : r.queue = [] := List.eq_nil_of_length_eq_zero (by omega)
    have hworker : r.worker = .receive := by
      have hbusy : r.worker.busy = 0 := by omega
      cases hw : r.worker <;> simp [hw, Worker.busy] at hbusy ⊢
    exact ⟨hsound.bytes_of_idle htodo hr hworker hqueue, hworker, hqueue⟩
  · obtain ⟨hworker, hqueue⟩ := hsound.joined hjoined hr
    have htodo : t.todo = [] := hsound.idle (by rw [hjoined]; decide)
    refine ⟨?_, hsound.bytes_of_idle htodo hr hworker hqueue⟩
    rw [hsent, hworker, hqueue]
    exact (List.append_nil _).symm

/-! ## A value on its way out -/

theorem Reachable.run {phase : Phase} (h : Reachable ⟨ks, todo, sent, settled, phase⟩) :
    Reachable
      ⟨todo.foldl Keyspace.move ks, [], sent ++ todo.flatMap Move.jobs, settled, phase⟩ := by
  induction todo generalizing ks sent with
  | nil => simpa using h
  | cons m todo ih =>
    have hmoved := ih (h.step (.move rfl))
    rwa [List.append_assoc] at hmoved

/-- An operation that the worker does not disturb is one way to go. -/
theorem Reachable.perform (h : Reachable ⟨ks, [], sent, settled, .open⟩) (op : Operation)
    (hfits : (ks.perform op).held < Word.modulus) :
    Reachable ⟨ks.perform op, [], sent ++ (ks.moves op).flatMap Move.jobs, settled, .open⟩ := by
  have hrun := (h.step (.enter rfl rfl op hfits)).run
  rwa [run_moves] at hrun

/-- The key is taken out of the tables, and its charge is yet to be taken off the counter. -/
def takenOut : Threads where
  keyspace := stocked.entered (.remove 0 ⟨#[97]⟩ false)
  todo := [.sub 50]
  sent := []
  settled := []
  phase := .open

/-- The keyspace is dropped while the worker holds the value of the key that was removed. -/
def inHand : Threads where
  keyspace := { handed with reclaimer := some { pending := 1, worker := .settle 50 } }
  todo := []
  sent := [50]
  settled := []
  phase := .closed

/-- The worker has released that value and ended. -/
def released : Threads where
  keyspace := { handed with
    reclaimer := some { released := 1 }
    memory := handed.memory.sub 50 }
  todo := []
  sent := [50]
  settled := [50]
  phase := .joined

theorem reachable_idle_stocked : Reachable ⟨stocked, [], [], [], .open⟩ := by
  have hset := (Reachable.create create_vacant).perform (.set 0 ⟨#[97]⟩ ⟨#[98]⟩ none ⟨0⟩)
    held_stocked_lt
  rwa [moves_stocked] at hset

theorem moves_takenOut : stocked.moves (.remove 0 ⟨#[97]⟩ false) = [.sub 50] :=
  moves_remove_stocked false

theorem reachable_takenOut : takenOut.Reachable := by
  have hle := reachable_stocked.sound.held_perform_le (.remove 0 ⟨#[97]⟩ false)
  rw [moves_takenOut] at hle
  have hentered := reachable_idle_stocked.step
    (.enter rfl rfl (.remove 0 ⟨#[97]⟩ false) (Nat.lt_of_le_of_lt hle held_stocked_lt))
  dsimp only at hentered
  rwa [moves_takenOut] at hentered

theorem reachable_inHand : inHand.Reachable := by
  have hremoved := reachable_idle_stocked.perform (.remove 0 ⟨#[97]⟩ true) held_handed_lt
  rw [moves_handed] at hremoved
  have hqueued : Reachable ⟨handed, [], [50], [], .open⟩ := hremoved
  have hreceived := hqueued.step (.receive reclaimer_handed rfl rfl)
  exact hreceived.step (.close rfl rfl)

theorem reachable_released : released.Reachable := by
  have hsettled := reachable_inHand.step (.settle rfl rfl)
  have hconfirmed := hsettled.step (.confirm rfl rfl)
  exact hconfirmed.step (.stop rfl rfl rfl rfl)

/-- A charge is on the counter when it is to be taken off, by the thread of the keyspace or by the
worker, which goes on after a drop. Once it has ended, what it was sent is settled. -/
theorem released_once_inHand :
    (takenOut.Reachable ∧ takenOut.keyspace.reclaimer = some {} ∧
      50 ≤ takenOut.keyspace.memory.bytes) ∧
    (inHand.Reachable ∧
      inHand.keyspace.reclaimer = some { pending := 1, worker := .settle 50 } ∧
      inHand.sent = inHand.settled ++ ([50] ++ []) ∧
      50 ≤ inHand.keyspace.memory.bytes ∧
      (inHand.unsettled { pending := 1, worker := .settle 50 }).length ≤ 1 ∧
      (∃ t', inHand.Step t') ∧ ∀ t', inHand.Step t' → t'.work < inHand.work ∧ t'.phase ≠ .open) ∧
    (released.Reachable ∧ released.keyspace.reclaimer = some { released := 1 } ∧
      released.settled = released.sent ∧
      released.keyspace.memory.bytes
        = tally (fun s : Shard =>
            tally (fun e => charge e.1 e.2.value (s.deadlines.contains e.1)) s.main.toList)
          released.keyspace.shards.toList) := by
  obtain ⟨-, -, hsub, -⟩ := released_once reachable_takenOut rfl
  obtain ⟨hsent, hsettle, -, hpending, -, -, hclosed⟩ := released_once reachable_inHand rfl
  obtain ⟨-, -, -, -, -, hjoined, -⟩ := released_once reachable_released rfl
  obtain ⟨hdone, hbytes⟩ := hjoined rfl
  obtain ⟨hnext, hnearer⟩ := hclosed rfl
  exact ⟨⟨reachable_takenOut, rfl, hsub 50 [] rfl⟩,
    ⟨reachable_inHand, rfl, hsent, hsettle 50 rfl, hpending, hnext, hnearer⟩,
    ⟨reachable_released, rfl, hdone, hbytes⟩⟩

end Threads

end SampledEviction.Keyspace
