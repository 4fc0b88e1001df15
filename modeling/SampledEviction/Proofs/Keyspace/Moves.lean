import SampledEviction.Proofs.Keyspace.Accounting

/-!
# Operations, move by move

An operation enters its change in the tables of a keyspace, which only the thread of the keyspace
sees, and moves what the worker of the reclaimer sees too: the counter of bytes, the count of
values to be released, and their queue. Each move is taken as a whole, and so is each of the
worker.

* `run_moves` — an operation is its entry in the tables, and then its moves
* `Sound.accounted` — the moves make up for what the entry changes
* `Midway.move`, `Midway.receive`, `Midway.settle`, `Midway.confirm` — what one move keeps
* `Sound.perform` — a whole operation
-/

namespace SampledEviction.Keyspace

/-! ## Operations and moves -/

/-- An operation of the thread that a keyspace belongs to. -/
inductive Operation where
  | set (shard : Nat) (key value : Bytes) (ttl : Option Duration) (now : Moment)
  | get (shard : Nat) (key : Bytes) (now : Moment)
  | remove (shard : Nat) (key : Bytes) (deferred : Bool)
  | expire (shard : Nat) (key : Bytes) (ttl : Duration) (now : Moment)
  | persist (shard : Nat) (key : Bytes)

/-- The keyspace after an operation. One that is refused changes nothing. -/
def perform (ks : Keyspace) : Operation → Keyspace
  | .set shard key value ttl now =>
    match ks.set shard key value ttl now with
    | .ok ks' => ks'
    | .error _ => ks
  | .get shard key now => (ks.get shard key now).2
  | .remove shard key deferred => (ks.remove shard key deferred).2
  | .expire shard key ttl now => (ks.expire shard key ttl now).2
  | .persist shard key => (ks.persist shard key).2

/-- A change of something that the worker sees too. -/
inductive Move where
  /-- A charge is put on the counter. -/
  | add (bytes : Nat)
  /-- A charge is taken off the counter. -/
  | sub (bytes : Nat)
  /-- A value to be released is counted. -/
  | announce
  /-- A value to be released is put in the queue. -/
  | send (bytes : Nat)
  deriving DecidableEq

/-- The keyspace after a move. -/
def move (ks : Keyspace) : Move → Keyspace
  | .add bytes => { ks with memory := ks.memory.add bytes }
  | .sub bytes => { ks with memory := ks.memory.sub bytes }
  | .announce => { ks with reclaimer := ks.reclaimer.map (·.announce) }
  | .send bytes => { ks with reclaimer := ks.reclaimer.map (·.send bytes) }

/-- The moves of a removal: the charge of the key is taken off now, or left to the reclaimer. -/
def removalMoves (ks : Keyspace) (shard : Nat) (key : Bytes) (deferred : Bool) : List Move :=
  match ks.entry? shard key with
  | none => []
  | some entry =>
    let bytes := charge key entry.value (ks.deadline? shard key).isSome
    if deferred && ks.threshold ≤ entry.value.size && ks.reclaimer.isSome then
      [.announce, .send bytes]
    else [.sub bytes]

/-- The moves of an operation, in order. -/
def moves (ks : Keyspace) : Operation → List Move
  | .set shard key value ttl _ =>
    if shard < ks.shards.size then
      match ks.entry? shard key with
      | some old =>
        [.sub (charge key old.value (ks.deadline? shard key).isSome),
          .add (charge key value ttl.isSome)]
      | none => [.add (charge key value ttl.isSome)]
    else []
  | .get shard key now => if ks.isExpired shard key now then ks.removalMoves shard key false else []
  | .remove shard key deferred => ks.removalMoves shard key deferred
  | .expire shard key _ _ =>
    if ks.contains shard .all key && (ks.deadline? shard key).isNone then [.add deadlineOverhead]
    else []
  | .persist shard key =>
    if (ks.deadline? shard key).isSome then [.sub deadlineOverhead] else []

/-- The keyspace once an operation is entered in its tables, before the first move. -/
def entered (ks : Keyspace) (op : Operation) : Keyspace :=
  { ks.perform op with memory := ks.memory, reclaimer := ks.reclaimer }

variable {ks : Keyspace} {shard : Nat} {key : Bytes} {entry : Entry}

/-! ## An operation is its moves -/

theorem run_removalMoves (ks : Keyspace) (shard : Nat) (key : Bytes) (deferred : Bool) :
    (ks.removalMoves shard key deferred).foldl move (ks.entered (.remove shard key deferred))
      = ks.perform (.remove shard key deferred) := by
  cases hentry : ks.entry? shard key with
  | none => simp [removalMoves, entered, perform, Keyspace.remove, hentry]
  | some entry =>
    cases hlate : deferred && decide (ks.threshold ≤ entry.value.size)
      && ks.reclaimer.isSome with
    | false => simp [removalMoves, entered, perform, Keyspace.remove, hentry, hlate, move]
    | true =>
      rw [Bool.and_eq_true, Bool.and_eq_true, decide_eq_true_eq] at hlate
      obtain ⟨⟨rfl, hlong⟩, hsome⟩ := hlate
      obtain ⟨r, hr⟩ := Option.isSome_iff_exists.mp hsome
      simp [removalMoves, entered, perform, Keyspace.remove, hentry, hlong, hr, move,
        Reclaimer.defer]

/-- An operation is its entry in the tables, and then its moves. -/
theorem run_moves (ks : Keyspace) (op : Operation) :
    (ks.moves op).foldl move (ks.entered op) = ks.perform op := by
  cases op with
  | set shard key value ttl now =>
    by_cases hlt : shard < ks.shards.size
    · cases hentry : ks.entry? shard key with
      | none => simp [moves, entered, perform, Keyspace.set, hlt, hentry, move, Counter.sub]
      | some old => simp [moves, entered, perform, Keyspace.set, hlt, hentry, move]
    · simp [moves, entered, perform, Keyspace.set, hlt]
  | get shard key now =>
    cases hexpired : ks.isExpired shard key now with
    | false =>
      cases hentry : ks.entry? shard key <;>
        simp [moves, entered, perform, Keyspace.get, hexpired, hentry, recordMiss, touch]
    | true =>
      cases hentry : ks.entry? shard key <;>
        simp [moves, removalMoves, entered, perform, Keyspace.get, Keyspace.remove, hexpired,
          hentry, recordExpired, recordMiss, move]
  | remove shard key deferred => exact ks.run_removalMoves shard key deferred
  | expire shard key ttl now =>
    cases hkey : ks.contains shard .all key with
    | false => simp [moves, entered, perform, Keyspace.expire, hkey]
    | true =>
      cases hdeadline : ks.deadline? shard key with
      | none => simp [moves, entered, perform, Keyspace.expire, hkey, hdeadline, move]
      | some t => simp [moves, entered, perform, Keyspace.expire, hkey, hdeadline]
  | persist shard key =>
    cases hdeadline : ks.deadline? shard key with
    | none => simp [moves, entered, perform, Keyspace.persist, hdeadline]
    | some t => simp [moves, entered, perform, Keyspace.persist, hdeadline, move]

/-! ## What the moves make up for -/

/-- The bytes that a move puts on the counter. -/
def Move.credit : Move → Nat
  | .add bytes => bytes
  | _ => 0

/-- The bytes that a move takes off the counter, or leaves to the reclaimer. -/
def Move.debit : Move → Nat
  | .sub bytes | .send bytes => bytes
  | _ => 0

/-- The bytes that a move leaves to the reclaimer. -/
def Move.sent : Move → Nat
  | .send bytes => bytes
  | _ => 0

/-- The moves that an operation may still have to make. Only one that has a reclaimer hands a
value over. -/
inductive Plan (background : Bool) : List Move → Prop where
  | done : Plan background []
  | add (bytes : Nat) : Plan background [.add bytes]
  | sub (bytes : Nat) : Plan background [.sub bytes]
  | replace (old new : Nat) : Plan background [.sub old, .add new]
  | handOver (h : background = true) (bytes : Nat) : Plan background [.announce, .send bytes]
  | send (h : background = true) (bytes : Nat) : Plan background [.send bytes]

/-- An operation is entered in the tables, and its moves make up for what keys are charged for
now and were charged for before. -/
structure Accounted (ks ks' : Keyspace) (todo : List Move) : Prop where
  shard : ∀ {i : Nat} {s : Shard}, ks'.shards[i]? = some s → s.Sound
  plan : Plan ks.reclaimer.isSome todo
  charged : ks'.charged + tally Move.debit todo = ks.charged + tally Move.credit todo
  credit_le : tally Move.credit todo ≤ ks'.charged

variable {ks' ks'' : Keyspace} {s : Shard} {f : Shard → Shard} {todo : List Move}

theorem Accounted.congr (h : Accounted ks ks' todo) (hshards : ks''.shards = ks'.shards) :
    Accounted ks ks'' todo := by
  have hcharged : ks''.charged = ks'.charged := by
    unfold Keyspace.charged
    rw [hshards]
  exact ⟨fun hs => h.shard (hshards ▸ hs), h.plan, hcharged ▸ h.charged, hcharged ▸ h.credit_le⟩

/-- Nothing is charged for anew, and no move is to be made. -/
theorem Sound.accounted_nil (h : ks.Sound) (hshards : ks'.shards = ks.shards) :
    Accounted ks ks' [] := by
  have hself : Accounted ks ks [] := ⟨h.shard, .done, rfl, Nat.zero_le _⟩
  exact hself.congr hshards

/-- One shard changes, and the moves make up for the difference. -/
theorem Sound.accounted_write (h : ks.Sound) (hs : ks.shards[shard]? = some s)
    (hf : (f s).Sound) (hplan : Plan ks.reclaimer.isSome todo) {rest : Nat}
    (hold : s.charged = tally Move.debit todo + rest)
    (hnew : (f s).charged = tally Move.credit todo + rest) (memory : Counter)
    (reclaimer : Option Reclaimer) :
    Accounted ks (ks.write shard f memory reclaimer) todo := by
  have hcharged := charged_write hs f memory reclaimer
  have hle := charged_le hs
  refine ⟨fun {i t} ht => ?_, hplan, by omega, by omega⟩
  unfold Keyspace.write at ht
  rw [Array.getElem?_modify] at ht
  split at ht
  · rename_i hi
    rw [← hi, hs] at ht
    cases ht
    exact hf
  · exact h.shard ht

theorem Sound.accounted_set (h : ks.Sound) (hlt : shard < ks.shards.size) (key value : Bytes)
    (ttl : Option Duration) (now : Moment) :
    Accounted ks (ks.entered (.set shard key value ttl now))
      (ks.moves (.set shard key value ttl now)) := by
  have hs := Array.getElem?_eq_getElem hlt
  have hsound := h.shard hs
  have hnew := hsound.charged_put key ⟨value, ks.tracker.created now⟩
    (ttl.map (deadlineAfter now))
  rw [Option.isSome_map] at hnew
  have hold := h.charged_eq_released hs key
  have hwrite {todo : List Move} (hplan : Plan ks.reclaimer.isSome todo)
      (hdebit : tally Move.debit todo = ks.released shard key)
      (hcredit : tally Move.credit todo = charge key value ttl.isSome) :=
    h.accounted_write
      (f := (·.put key ⟨value, ks.tracker.created now⟩ (ttl.map (deadlineAfter now))))
      hs (hsound.put _ _ _) hplan (hdebit ▸ hold) (hcredit ▸ hnew) ks.memory ks.reclaimer
  have hentered : ks.entered (.set shard key value ttl now) = ks.write shard
      (·.put key ⟨value, ks.tracker.created now⟩ (ttl.map (deadlineAfter now))) ks.memory
      ks.reclaimer := by
    simp only [entered, perform, Keyspace.set, hlt, if_true]
    rfl
  rw [hentered]
  simp only [moves, hlt, if_true]
  cases hentry : ks.entry? shard key with
  | none => exact hwrite (.add _) (by simp [released, hentry, Move.debit]) (by simp [Move.credit])
  | some old =>
    exact hwrite (.replace _ _) (by simp [released, hentry, Move.debit]) (by simp [Move.credit])

theorem Sound.accounted_remove (h : ks.Sound) (shard : Nat) (key : Bytes) (deferred : Bool) :
    Accounted ks (ks.entered (.remove shard key deferred))
      (ks.removalMoves shard key deferred) := by
  cases hentry : ks.entry? shard key with
  | none =>
    have hnone : ks.removalMoves shard key deferred = [] := by simp [removalMoves, hentry]
    rw [hnone]
    refine h.accounted_nil ?_
    simp [entered, perform, Keyspace.remove, hentry]
  | some entry =>
    obtain ⟨s, hs, hkey⟩ := exists_shard_of_entry hentry
    have hsound := h.shard hs
    have hold := hsound.charged_self hkey
    rw [← h.isSome_deadline? hs] at hold
    have hentered : ks.entered (.remove shard key deferred)
        = ks.write shard (·.erase key) ks.memory ks.reclaimer := by
      simp only [entered, perform, Keyspace.remove, hentry]
      rfl
    rw [hentered]
    -- whether now or later, what is released is the charge of the key
    have hwrite {todo : List Move} (hplan : Plan ks.reclaimer.isSome todo)
        (hdebit : tally Move.debit todo = charge key entry.value (ks.deadline? shard key).isSome)
        (hcredit : tally Move.credit todo = 0) :=
      h.accounted_write (f := (·.erase key)) hs (hsound.erase key) hplan (hdebit ▸ hold)
        (by rw [hcredit, Nat.zero_add]) ks.memory ks.reclaimer
    unfold removalMoves
    rw [hentry]
    dsimp only
    split
    · rename_i hlate
      rw [Bool.and_eq_true] at hlate
      exact hwrite (.handOver hlate.2 _) (by simp [Move.debit]) (by simp [Move.credit])
    · exact hwrite (.sub _) (by simp [Move.debit]) (by simp [Move.credit])

theorem Sound.accounted_touch (h : ks.Sound) (hentry : ks.entry? shard key = some entry)
    (stamp : AccessStamp) (now : Moment) : Accounted ks (ks.touch shard key stamp now) [] := by
  obtain ⟨s, hs, hkey⟩ := exists_shard_of_entry hentry
  have hsound := h.shard hs
  have hwrite (stamp : AccessStamp) : Accounted ks (ks.write shard (fun s =>
      { s with main := s.main.modify key fun e => { e with stamp } }) ks.memory
      ks.reclaimer) [] := by
    have hset : { s with main := s.main.modify key fun e => { e with stamp } }
        = s.setEntry key { entry with stamp } := by
      rw [DenseMap.modify_eq_insert hsound.main hkey, Shard.setEntry]
    refine h.accounted_write hs ?_ .done (Nat.zero_add _).symm ?_ ks.memory ks.reclaimer
    · rw [hset]
      exact hsound.setEntry key _
    · rw [hset, hsound.charged_setEntry, hsound.charged_self hkey]
      exact (Nat.zero_add _).symm
  exact (hwrite (ks.tracker.accessed stamp now).1).congr rfl

theorem Sound.accounted_expire (h : ks.Sound) (hcontains : ks.contains shard .all key = true)
    (ttl : Duration) (now : Moment) :
    Accounted ks (ks.entered (.expire shard key ttl now))
      (ks.moves (.expire shard key ttl now)) := by
  obtain ⟨s, hs, hkey⟩ := exists_shard_of_contains hcontains
  have hsound := h.shard hs
  obtain ⟨entry, hentry⟩ := hsound.main.contains_iff.mp hkey
  have hold := hsound.charged_self hentry
  have hnew := hsound.charged_setDeadline hentry (deadlineAfter now ttl)
  rw [← h.isSome_deadline? hs] at hold
  have hentered : ks.entered (.expire shard key ttl now) = ks.write shard
      (·.setDeadline key (deadlineAfter now ttl)) ks.memory ks.reclaimer := by
    simp only [entered, perform, Keyspace.expire, hcontains, if_true]
    rfl
  rw [hentered]
  have hwrite {todo : List Move} {rest : Nat} (hplan : Plan ks.reclaimer.isSome todo)
      (hold : s.charged = tally Move.debit todo + rest)
      (hnew : (s.setDeadline key (deadlineAfter now ttl)).charged
        = tally Move.credit todo + rest) :=
    h.accounted_write (f := (·.setDeadline key (deadlineAfter now ttl))) hs
      (hsound.setDeadline hkey _) hplan hold hnew ks.memory ks.reclaimer
  -- only a key that did not expire before is charged for a deadline
  cases hdeadline : ks.deadline? shard key with
  | none =>
    rw [hdeadline, Option.isSome_none] at hold
    rw [charge_true, Nat.add_assoc, ← hold] at hnew
    simp only [moves, hcontains, hdeadline]
    exact hwrite (.add _) (Nat.zero_add _).symm hnew
  | some t =>
    rw [hdeadline, Option.isSome_some] at hold
    rw [← hold] at hnew
    simp only [moves, hcontains, hdeadline]
    exact hwrite .done (Nat.zero_add _).symm (hnew.trans (Nat.zero_add _).symm)

theorem Sound.accounted_persist (h : ks.Sound)
    (hdeadline : (ks.deadline? shard key).isSome = true) :
    Accounted ks (ks.entered (.persist shard key)) (ks.moves (.persist shard key)) := by
  obtain ⟨t, ht⟩ := Option.isSome_iff_exists.mp hdeadline
  obtain ⟨s, hs, -⟩ := Option.bind_eq_some_iff.mp ht
  have hsound := h.shard hs
  have hentered : ks.entered (.persist shard key)
      = ks.write shard (·.eraseDeadline key) ks.memory ks.reclaimer := by
    simp only [entered, perform, Keyspace.persist, hdeadline, if_true]
    rfl
  have hmoves : ks.moves (.persist shard key) = [.sub deadlineOverhead] := by
    simp [moves, hdeadline]
  rw [hentered, hmoves]
  rw [h.isSome_deadline? hs] at hdeadline
  obtain ⟨entry, hentry⟩ := hsound.main.contains_iff.mp (hsound.subset key hdeadline)
  have hold := hsound.charged_self hentry
  rw [hdeadline, charge_true, Nat.add_assoc, ← hsound.charged_eraseDeadline hentry] at hold
  have hnew : (s.eraseDeadline key).charged
      = tally Move.credit [.sub deadlineOverhead] + (s.eraseDeadline key).charged :=
    (Nat.zero_add _).symm
  exact h.accounted_write (f := (·.eraseDeadline key)) hs (hsound.eraseDeadline key) (.sub _)
    hold hnew ks.memory ks.reclaimer

/-- The moves of an operation make up for what it changes. -/
theorem Sound.accounted (h : ks.Sound) (op : Operation) :
    Accounted ks (ks.entered op) (ks.moves op) := by
  cases op with
  | set shard key value ttl now =>
    by_cases hlt : shard < ks.shards.size
    · exact h.accounted_set hlt key value ttl now
    · have hnone : ks.moves (.set shard key value ttl now) = [] := by simp [moves, hlt]
      rw [hnone]
      exact h.accounted_nil (by simp [entered, perform, Keyspace.set, hlt])
  | get shard key now =>
    cases hexpired : ks.isExpired shard key now with
    | true =>
      have hmoves : ks.moves (.get shard key now) = ks.removalMoves shard key false := by
        simp [moves, hexpired]
      rw [hmoves]
      refine (h.accounted_remove shard key false).congr ?_
      simp [entered, perform, Keyspace.get, hexpired, recordExpired, recordMiss]
    | false =>
      have hnone : ks.moves (.get shard key now) = [] := by simp [moves, hexpired]
      rw [hnone]
      cases hentry : ks.entry? shard key with
      | none =>
        refine h.accounted_nil ?_
        simp [entered, perform, Keyspace.get, hexpired, hentry, recordMiss]
      | some entry =>
        refine (h.accounted_touch hentry entry.stamp now).congr ?_
        simp [entered, perform, Keyspace.get, hexpired, hentry]
  | remove shard key deferred => exact h.accounted_remove shard key deferred
  | expire shard key ttl now =>
    cases hcontains : ks.contains shard .all key with
    | true => exact h.accounted_expire hcontains ttl now
    | false =>
      have hnone : ks.moves (.expire shard key ttl now) = [] := by simp [moves, hcontains]
      rw [hnone]
      exact h.accounted_nil (by simp [entered, perform, Keyspace.expire, hcontains])
  | persist shard key =>
    cases hdeadline : (ks.deadline? shard key).isSome with
    | true => exact h.accounted_persist hdeadline
    | false =>
      have hnone : ks.moves (.persist shard key) = [] := by simp [moves, hdeadline]
      rw [hnone]
      exact h.accounted_nil (by simp [entered, perform, Keyspace.persist, hdeadline])

/-! ## Between two moves -/

/-- A keyspace amid an operation, with some moves still to be made. -/
structure Midway (ks : Keyspace) (todo : List Move) : Prop where
  shard : ∀ {i : Nat} {s : Shard}, ks.shards[i]? = some s → s.Sound
  plan : Plan ks.reclaimer.isSome todo
  bytes : ks.memory.bytes + tally Move.credit todo = ks.held + tally Move.debit todo
  credit_le : tally Move.credit todo ≤ ks.charged
  fits : ∀ bytes, .add bytes ∈ todo → ks.held < Word.modulus

theorem Sound.midway (h : ks.Sound) : Midway ks [] where
  shard := h.shard
  plan := .done
  bytes := h.bytes
  credit_le := Nat.zero_le _
  fits := by simp

theorem Midway.sound (h : Midway ks []) : ks.Sound := ⟨h.shard, h.bytes⟩

variable {m : Move} {bytes : Nat} {r : Reclaimer}

/-- The counter shows no less than what the reclaimer has to release. -/
theorem Midway.owed_le (h : Midway ks todo) : owed ks.reclaimer ≤ ks.memory.bytes := by
  have hbytes := h.bytes
  have hle := h.credit_le
  unfold held at hbytes
  omega

/-- A charge is never taken off a counter that shows less. -/
theorem Midway.sub_le (h : Midway ks (.sub bytes :: todo)) : bytes ≤ ks.memory.bytes := by
  have hbytes := h.bytes
  have hle := h.credit_le
  have hdebit : tally Move.debit (.sub bytes :: todo) = bytes + tally Move.debit todo := rfl
  unfold held at hbytes
  omega

theorem held_announce (ks : Keyspace) : (ks.move .announce).held = ks.held := by
  unfold held Keyspace.move
  cases ks.reclaimer <;> rfl

theorem held_send (hsome : ks.reclaimer.isSome = true) (bytes : Nat) :
    (ks.move (.send bytes)).held = ks.held + bytes := by
  obtain ⟨r, hr⟩ := Option.isSome_iff_exists.mp hsome
  have howed : owed (ks.move (.send bytes)).reclaimer = owed ks.reclaimer + bytes := by
    simp only [Keyspace.move, hr, owed, Option.map_some, Option.getD_some, r.outstanding_send]
  show ks.charged + owed _ = _
  rw [howed]
  exact (Nat.add_assoc _ _ _).symm

/-- What one move of an operation keeps. -/
theorem Midway.move (h : Midway ks (m :: todo)) : Midway (ks.move m) todo := by
  obtain ⟨hshard, hplan, hbytes, hle, hfits⟩ := h
  cases hplan with
  | add n =>
    have hlt : ks.memory.bytes + n < Word.modulus := by
      rw [show ks.memory.bytes + n = ks.held from hbytes]
      exact hfits n List.mem_cons_self
    exact ⟨hshard, .done, (Word.add_of_lt hlt).trans hbytes, Nat.zero_le _, by simp⟩
  | sub n =>
    have hbytes : ks.memory.bytes = ks.held + n := hbytes
    have hsub : ks.memory.bytes - n = ks.held := by omega
    exact ⟨hshard, .done, hsub, Nat.zero_le _, by simp⟩
  | replace old new =>
    have hbytes : ks.memory.bytes + tally Move.credit [.add new] = ks.held + old := by
      simpa [Move.credit, Move.debit] using hbytes
    have hle : tally Move.credit [.add new] ≤ ks.charged := by simpa [Move.credit] using hle
    have hsub : ks.memory.bytes - old + tally Move.credit [.add new] = ks.held := by
      unfold held at *
      omega
    exact ⟨hshard, .add new, hsub, hle, fun n hn => hfits n (List.mem_cons_of_mem _ hn)⟩
  | handOver hsome n =>
    refine ⟨hshard, .send (by simpa [Keyspace.move] using hsome) n, ?_, Nat.zero_le _, by simp⟩
    rw [held_announce]
    show ks.memory.bytes + _ = _
    simpa [Move.credit, Move.debit] using hbytes
  | send hsome n =>
    refine ⟨hshard, .done, ?_, Nat.zero_le _, by simp⟩
    rw [held_send hsome]
    exact hbytes

/-- What the moves of an operation keep, up to any of them. -/
theorem Midway.run {before : List Move} (h : Midway ks (before ++ todo)) :
    Midway (before.foldl Keyspace.move ks) todo := by
  induction before generalizing ks with
  | nil => exact h
  | cons m before ih => exact ih h.move

/-! ## The worker -/

variable {reclaimer : Option Reclaimer} {memory : Counter}

/-- A move of the worker takes as much off the counter as off its list. -/
theorem Midway.work (h : Midway ks todo) (hr : ks.reclaimer = some r) {r' : Reclaimer}
    (hbytes : memory.bytes + r.outstanding = ks.memory.bytes + r'.outstanding)
    (hle : r'.outstanding ≤ r.outstanding) :
    Midway { ks with memory, reclaimer := some r' } todo := by
  obtain ⟨hshard, hplan, hheld, hcredit, hfits⟩ := h
  have howed : ks.held = ks.charged + r.outstanding := by
    unfold held
    rw [hr]
    rfl
  have howed' : held { ks with memory, reclaimer := some r' } = ks.charged + r'.outstanding := rfl
  refine ⟨hshard, by rwa [hr] at hplan, ?_, hcredit, fun n hn => ?_⟩
  · rw [howed']
    show memory.bytes + _ = _
    omega
  · have hlt := hfits n hn
    omega

theorem Midway.receive (h : Midway ks todo) (hr : ks.reclaimer = some r) :
    Midway { ks with reclaimer := some r.receive } todo :=
  h.work hr (by rw [r.outstanding_receive]) (Nat.le_of_eq r.outstanding_receive)

theorem Midway.settle (h : Midway ks todo) (hr : ks.reclaimer = some r) :
    Midway { ks with
      reclaimer := some (r.settle ks.memory).1, memory := (r.settle ks.memory).2 } todo := by
  have howed : r.outstanding ≤ ks.memory.bytes := by simpa [hr, owed] using h.owed_le
  cases hworker : r.worker with
  | settle bytes =>
    rw [Reclaimer.settle_eq hworker]
    have hsettled := Reclaimer.outstanding_settle hworker
    have hsub : (ks.memory.sub bytes).bytes + r.outstanding
        = ks.memory.bytes + Reclaimer.outstanding { r with worker := .confirm } := by
      show ks.memory.bytes - bytes + _ = _
      omega
    exact h.work hr hsub (by simp only; omega)
  | receive =>
    rw [Reclaimer.settle_idle (by simp [hworker])]
    exact h.work hr rfl (Nat.le_refl _)
  | confirm =>
    rw [Reclaimer.settle_idle (by simp [hworker])]
    exact h.work hr rfl (Nat.le_refl _)

theorem Midway.confirm (h : Midway ks todo) (hr : ks.reclaimer = some r) :
    Midway { ks with reclaimer := some r.confirm } todo :=
  h.work hr (by rw [r.outstanding_confirm]) (Nat.le_of_eq r.outstanding_confirm)

/-! ## Whole operations -/

/-- The moves of an operation add what they hand over to what a keyspace has to answer for. -/
theorem held_run (ks : Keyspace) (h : Plan ks.reclaimer.isSome todo) :
    (todo.foldl Keyspace.move ks).held = ks.held + tally Move.sent todo := by
  cases h with
  | done => rfl
  | add n => rfl
  | sub n => rfl
  | replace old new => rfl
  | handOver hsome n =>
    have hsent : (ks.move .announce).reclaimer.isSome = true := by
      simpa [Keyspace.move] using hsome
    refine (held_send hsent n).trans ?_
    simp [held_announce, Move.sent]
  | send hsome n => exact held_send hsome n

/-- An operation that puts a charge on the counter hands nothing over. -/
theorem Plan.sent_eq_zero {background : Bool} (h : Plan background todo)
    (hadd : .add bytes ∈ todo) : tally Move.sent todo = 0 := by
  cases h <;> simp_all [Move.sent]

/-- An operation starts in the tables, if what it has to answer for in the end fits the counter. -/
theorem Sound.enter (h : ks.Sound) (op : Operation)
    (hfits : ∀ bytes, .add bytes ∈ ks.moves op → (ks.perform op).held < Word.modulus) :
    Midway (ks.entered op) (ks.moves op) := by
  obtain ⟨hshard, hplan, hcharged, hcredit⟩ := h.accounted op
  refine ⟨hshard, hplan, ?_, hcredit, fun n hn => ?_⟩
  · have hbytes := h.bytes
    show ks.memory.bytes + _ = (ks.entered op).charged + owed ks.reclaimer + _
    unfold held at hbytes
    omega
  · have hrun := (ks.entered op).held_run hplan
    rw [run_moves, hplan.sent_eq_zero hn, Nat.add_zero] at hrun
    exact hrun ▸ hfits n hn

/-- A sound keyspace is sound after an operation. -/
theorem Sound.perform (h : ks.Sound) (op : Operation)
    (hfits : ∀ bytes, .add bytes ∈ ks.moves op → (ks.perform op).held < Word.modulus) :
    (ks.perform op).Sound := by
  have hstart : Midway (ks.entered op) (ks.moves op ++ []) := by
    rw [List.append_nil]
    exact h.enter op hfits
  have hend := hstart.run.sound
  rwa [run_moves] at hend

/-- An operation adds at most the charges that it puts on the counter. -/
theorem Sound.held_perform_le (h : ks.Sound) (op : Operation) :
    (ks.perform op).held ≤ ks.held + tally Move.credit (ks.moves op) := by
  obtain ⟨-, hplan, hcharged, -⟩ := h.accounted op
  have hrun := (ks.entered op).held_run hplan
  have hsent : tally Move.sent (ks.moves op) ≤ tally Move.debit (ks.moves op) := by
    refine tally_le_tally fun m _ => ?_
    cases m <;> simp [Move.sent, Move.debit]
  rw [run_moves] at hrun
  have hheld : (ks.entered op).held = (ks.entered op).charged + owed ks.reclaimer := rfl
  unfold held at hrun hheld ⊢
  omega

theorem add_notMem_removalMoves (ks : Keyspace) (shard : Nat) (key : Bytes) (deferred : Bool)
    (bytes : Nat) : .add bytes ∉ ks.removalMoves shard key deferred := by
  unfold removalMoves
  split
  · simp
  · dsimp only
    split <;> simp

/-- A removal puts no charge on the counter, so it needs no room. -/
theorem Sound.remove (h : ks.Sound) (shard : Nat) (key : Bytes) (deferred : Bool) :
    (ks.remove shard key deferred).2.Sound :=
  h.perform (.remove shard key deferred) fun bytes hadd =>
    absurd hadd (ks.add_notMem_removalMoves shard key deferred bytes)

end SampledEviction.Keyspace
