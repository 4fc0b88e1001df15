import Mathlib.Data.Finmap
import SampledEviction.Keyspace.Dataset
import SampledEviction.Proofs.DenseMap.FiniteMap
import SampledEviction.Proofs.Keyspace.Records

/-!
# A keyspace as a plain map

A keyspace spreads a key over the two tables of its shard, and looks at deadlines only when a key
is read. It answers as a finite map does that has a value for each key, and perhaps a second from
which on the key has expired.

* `Mirrors.exists_answered` — one call, with all that it touches
* `replay_refines` — any calls, one after another
-/

namespace SampledEviction.Keyspace

/-! ## Calls and replies -/

/-- A shard and a key. -/
abbrev Address := Nat × Bytes

/-- What may be asked of a keyspace. Where the time matters, it is that of the call. -/
inductive Call where
  | set (a : Address) (value : Bytes) (ttl : Option Duration) (now : Moment)
  | get (a : Address) (now : Moment)
  | delete (a : Address)
  /-- A deletion by an evictor. -/
  | deleteNow (a : Address)
  /-- A deletion by an evictor that leaves the memory to the background. -/
  | deleteDeferred (a : Address)
  | expire (a : Address) (ttl : Duration) (now : Moment)
  | persist (a : Address)
  | timeToLive (a : Address) (now : Moment)
  | contains (a : Address)
  | shardLength (shard : Nat)
  | length
  | volatileLength

/-- What is answered. -/
inductive Reply where
  | done
  | refused (e : KeyspaceError)
  | value (found : Option Bytes)
  | flag (yes : Bool)
  | seconds (left : Option Nat)
  | number (n : Nat)
  deriving DecidableEq

namespace Call

/-- The key that a call is about, if it is about one. -/
def target? : Call → Option Address
  | .set a _ _ _ | .get a _ | .delete a | .deleteNow a | .deleteDeferred a | .expire a _ _
  | .persist a | .timeToLive a _ | .contains a => some a
  | .shardLength _ | .length | .volatileLength => none

def isGet : Call → Bool
  | .get _ _ => true
  | _ => false

/-- Whether a call stamps a key: it sets it, or reads it and finds it. -/
def Stamps (c : Call) (reply : Reply) (a : Address) : Prop :=
  (∃ value ttl now, c = .set a value ttl now) ∨
    ∃ now value, c = .get a now ∧ reply = .value (some value)

end Call

/-- Whether a value was found. -/
def Reply.isHit : Reply → Bool
  | .value (some _) => true
  | _ => false

/-- Answers a call. A call that is refused changes nothing. -/
def answer (ks : Keyspace) : Call → Reply × Keyspace
  | .set a value ttl now =>
    match ks.set a.1 a.2 value ttl now with
    | .ok ks' => (.done, ks')
    | .error e => (.refused e, ks)
  | .get a now => (ks.get a.1 a.2 now).map .value id
  | .delete a => (ks.delete a.1 a.2).map .flag id
  | .deleteNow a => (dataset.delete a.1 a.2 ks).map .flag id
  | .deleteDeferred a => (dataset.deleteDeferred a.1 a.2 ks).map .flag id
  | .expire a ttl now => (ks.expire a.1 a.2 ttl now).map .flag id
  | .persist a => (ks.persist a.1 a.2).map .flag id
  | .timeToLive a now => (.seconds (ks.timeToLive? a.1 a.2 now), ks)
  | .contains a => (.flag (ks.contains a.1 .all a.2), ks)
  | .shardLength shard => (.number (ks.count shard .all), ks)
  | .length => (.number (ks.total .all), ks)
  | .volatileLength => (.number (ks.total .volatile), ks)

/-- Answers calls in turn. -/
def replay {α : Type} (answer : α → Call → Reply × α) : List Call → α → List Reply × α
  | [], a => ([], a)
  | c :: calls, a =>
    let (reply, a) := answer a c
    let (replies, a) := replay answer calls a
    (reply :: replies, a)

/-! ## The plain map -/

/-- A value, and the second from which on it has expired. -/
structure Item where
  value : Bytes
  expiry : Option Nat
  deriving DecidableEq

/-- Finitely many addresses, each with an item. -/
abbrev PlainMap := Finmap fun _ : Address => Item

namespace PlainMap

/-- The second at which a time to live runs out: after a second at least, and at the last second
that there is at most. -/
def expiryAfter (now : Moment) (ttl : Duration) : Nat :=
  min (now.seconds + max 1 ttl.seconds) (2 ^ 64 - 1)

/-- What a map of some shards answers to a call. Nothing is looked at but the map.

`expire` tells whether the key is there, `persist` whether it was to expire. -/
def answer (shards : Nat) (m : PlainMap) : Call → Reply × PlainMap
  | .set a value ttl now =>
    if a.1 < shards then (.done, m.insert a ⟨value, ttl.map (expiryAfter now)⟩)
    else (.refused (.shardOutOfRange a.1 shards), m)
  | .get a now =>
    match m.lookup a with
    | none => (.value none, m)
    | some item =>
      if item.expiry.any (· ≤ now.seconds) then (.value none, m.erase a)
      else (.value (some item.value), m)
  | .delete a | .deleteNow a | .deleteDeferred a => (.flag (m.lookup a).isSome, m.erase a)
  | .expire a ttl now =>
    match m.lookup a with
    | none => (.flag false, m)
    | some item => (.flag true, m.insert a { item with expiry := some (expiryAfter now ttl) })
  | .persist a =>
    match m.lookup a with
    | none => (.flag false, m)
    | some item => (.flag item.expiry.isSome, m.insert a { item with expiry := none })
  | .timeToLive a now =>
    (.seconds (((m.lookup a).bind (·.expiry)).map (· - now.seconds)), m)
  | .contains a => (.flag (m.lookup a).isSome, m)
  | .shardLength shard => (.number (m.keys.filter (·.1 = shard)).card, m)
  | .length => (.number m.keys.card, m)
  | .volatileLength =>
    (.number (m.keys.filter fun a => (m.lookup a).any (·.expiry.isSome)).card, m)

variable {m m' : PlainMap} {a b : Address}

/-- A call about one key leaves all others as they are. -/
theorem lookup_answer (shards : Nat) {c : Call} (hc : c.target? = some a) (hne : a ≠ b) :
    (m.answer shards c).2.lookup b = m.lookup b := by
  cases c with
  | set a' value ttl now =>
    cases hc
    simp only [answer]
    split
    · rw [FiniteMap.lookup_insert_eq, if_neg hne]
    · rfl
  | get a' now =>
    cases hc
    simp only [answer]
    split
    · rfl
    · split
      · rw [FiniteMap.lookup_erase_eq, if_neg hne]
      · rfl
  | delete a' | deleteNow a' | deleteDeferred a' =>
    cases hc
    simp only [answer]
    rw [FiniteMap.lookup_erase_eq, if_neg hne]
  | expire a' ttl now =>
    cases hc
    simp only [answer]
    split
    · rfl
    · rw [FiniteMap.lookup_insert_eq, if_neg hne]
  | persist a' =>
    cases hc
    simp only [answer]
    split
    · rfl
    · rw [FiniteMap.lookup_insert_eq, if_neg hne]
  | timeToLive a' now => rfl
  | contains a' => rfl
  | shardLength shard => cases hc
  | length => cases hc
  | volatileLength => cases hc

/-- The answer to a call about one key is read off that key. -/
theorem reply_congr (shards : Nat) {c : Call} (hc : c.target? = some a)
    (h : m'.lookup a = m.lookup a) : (m'.answer shards c).1 = (m.answer shards c).1 := by
  cases c with
  | set a' value ttl now =>
    simp only [answer]
    split <;> rfl
  | get a' now =>
    cases hc
    simp only [answer, h]
    cases m.lookup a with
    | none => rfl
    | some item =>
      dsimp only
      split <;> rfl
  | delete a' | deleteNow a' | deleteDeferred a' | timeToLive a' now | contains a' =>
    cases hc
    simp only [answer, h]
  | expire a' ttl now | persist a' =>
    cases hc
    simp only [answer, h]
    cases m.lookup a <;> rfl
  | shardLength shard => cases hc
  | length => cases hc
  | volatileLength => cases hc

end PlainMap

/-! ## What a map mirrors -/

/-- The item of a record. -/
def item (x : Record Bytes) : Item := ⟨x.value, x.deadline⟩

/-- A map has the items of a keyspace with some shards. -/
structure Mirrors (shards : Nat) (ks : Keyspace) (m : PlainMap) : Prop where
  tidy : ks.Tidy
  size : ks.shards.size = shards
  lookup (a : Address) : m.lookup a = (ks.record? a.1 a.2).map item

variable {ks ks' : Keyspace} {shards : Nat} {m m' : PlainMap} {a : Address}
  {g : Option (Record Bytes) → Option (Record Bytes)}

/-- A rewritten record is mirrored, if the item is. -/
theorem Mirrors.rewritten (h : Mirrors shards ks m) (hr : Rewritten ks ks' a.1 a.2 g)
    (hm : ∀ b, m'.lookup b = if a = b then (g (ks.record? a.1 a.2)).map item else m.lookup b) :
    Mirrors shards ks' m' where
  tidy := hr.tidy
  size := hr.size.trans h.size
  lookup b := by
    by_cases hab : a = b
    · subst hab
      rw [hm, if_pos rfl, hr.self]
    · rw [hm, if_neg hab, hr.other fun hboth => hab (Prod.ext hboth.1 hboth.2), h.lookup]

theorem Mirrors.insert (h : Mirrors shards ks m) (hr : Rewritten ks ks' a.1 a.2 g) {x : Item}
    (hx : (g (ks.record? a.1 a.2)).map item = some x) : Mirrors shards ks' (m.insert a x) :=
  h.rewritten hr fun b => by rw [FiniteMap.lookup_insert_eq, hx]

theorem Mirrors.erase (h : Mirrors shards ks m) (hr : Rewritten ks ks' a.1 a.2 fun _ => none) :
    Mirrors shards ks' (m.erase a) :=
  h.rewritten hr fun b => by rw [FiniteMap.lookup_erase_eq, Option.map_none]

/-- The item stays as it is, whatever becomes of the stamp. -/
theorem Mirrors.keep (h : Mirrors shards ks m) (hr : Rewritten ks ks' a.1 a.2 g)
    (hsame : (g (ks.record? a.1 a.2)).map item = (ks.record? a.1 a.2).map item) :
    Mirrors shards ks' m :=
  h.rewritten hr fun b => by
    rw [hsame, ← h.lookup]
    split
    · rename_i hab
      rw [hab]
    · rfl

/-! ## Numbers of keys -/

/-- A set has as many elements as a list of them without repetition. -/
theorem card_eq_length {γ : Type} {xs : List γ} (hnodup : xs.Nodup) {f : γ → Address}
    (hf : Function.Injective f) {s : Finset Address} (h : ∀ b, b ∈ s ↔ ∃ x ∈ xs, f x = b) :
    s.card = xs.length := by
  have hs : s = (xs.map f).toFinset := by
    ext b
    rw [h, List.mem_toFinset, List.mem_map]
  rw [hs, List.toFinset_card_of_nodup (hnodup.map hf), List.length_map]

theorem Mirrors.within_iff (h : Mirrors shards ks m) (scope : Scope) (a : Address) :
    ks.contains a.1 scope a.2 = true ↔
      a ∈ m.keys ∧ (scope = .volatile → (m.lookup a).any (·.expiry.isSome) = true) := by
  rw [h.tidy.contains_eq_any, Finmap.mem_keys, ← Finmap.lookup_isSome, h.lookup]
  cases ks.record? a.1 a.2 with
  | none => simp
  | some x => cases scope <;> simp [Record.within, item]

theorem Mirrors.card_shard (h : Mirrors shards ks m) (shard : Nat) :
    (m.keys.filter (·.1 = shard)).card = ks.count shard .all := by
  obtain ⟨keys, hnodup, hlength, hmem⟩ := h.tidy.exists_keys shard .all
  rw [← hlength]
  refine card_eq_length hnodup (f := (shard, ·)) (fun k k' hk => (Prod.mk.inj hk).2) ?_
  rintro ⟨i, k⟩
  have hkey := h.within_iff .all (i, k)
  simp only [Finset.mem_filter, hmem]
  constructor
  · rintro ⟨hk, rfl⟩
    exact ⟨k, hkey.mpr ⟨hk, nofun⟩, rfl⟩
  · rintro ⟨k', hk', heq⟩
    cases heq
    exact ⟨(hkey.mp hk').1, rfl⟩

theorem Mirrors.card_total (h : Mirrors shards ks m) (scope : Scope) :
    (m.keys.filter fun a =>
      scope = .volatile → (m.lookup a).any (·.expiry.isSome) = true).card = ks.total scope := by
  obtain ⟨vs, hnodup, hlength, hmem⟩ := h.tidy.exists_census scope
  rw [← hlength]
  refine card_eq_length hnodup (f := fun v => (v.shard, v.key)) ?_ ?_
  · rintro ⟨i, k⟩ ⟨i', k'⟩ hsame
    cases hsame
    rfl
  · intro b
    rw [Finset.mem_filter, ← h.within_iff]
    constructor
    · intro hb
      exact ⟨⟨b.1, b.2⟩, (hmem _).mpr hb, rfl⟩
    · rintro ⟨v, hv, rfl⟩
      exact (hmem v).mp hv

/-! ## Figures and stamps -/

/-- What some calls put on the figures of a keyspace. -/
structure Tallied (before after : Stats) (calls : List Call) (replies : List Reply) : Prop where
  hits : after.hits = before.hits + replies.countP Reply.isHit
  reads : after.hits + after.misses = before.hits + before.misses + calls.countP Call.isGet
  expired_le : before.expired ≤ before.misses → after.expired ≤ after.misses

theorem Tallied.refl (stats : Stats) : Tallied stats stats [] [] := ⟨rfl, rfl, id⟩

theorem Tallied.trans {s s' s'' : Stats} {cs cs' : List Call} {rs rs' : List Reply}
    (h : Tallied s s' cs rs) (h' : Tallied s' s'' cs' rs') :
    Tallied s s'' (cs ++ cs') (rs ++ rs') where
  hits := by rw [h'.hits, h.hits, List.countP_append, Nat.add_assoc]
  reads := by rw [h'.reads, h.reads, List.countP_append, Nat.add_assoc]
  expired_le hle := h'.expired_le (h.expired_le hle)

/-- A call that reads nothing leaves the figures as they are. -/
theorem tallied_of_eq {s s' : Stats} (h : s' = s) {c : Call} (hc : c.isGet = false) {r : Reply}
    (hr : r.isHit = false) : Tallied s s' [c] [r] := by
  subst h
  exact ⟨by simp [hr], by simp [hc], id⟩

theorem stamp?_eq_record (ks : Keyspace) (shard : Nat) (key : Bytes) :
    ks.stamp? shard key = (ks.record? shard key).map (·.stamp) := by
  unfold Keyspace.stamp? record?
  rw [Option.map_map]
  rfl

/-- A call stamps no key but those that it sets or finds. -/
def KeepsStamps (ks ks' : Keyspace) (c : Call) (r : Reply) : Prop :=
  ∀ a : Address, ks'.contains a.1 .all a.2 = true → ¬ c.Stamps r a →
    ks'.stamp? a.1 a.2 = ks.stamp? a.1 a.2

/-- Other keys keep their stamps, and so does the one that is rewritten, if it was stamped by the
call or its record keeps the stamp. -/
theorem Rewritten.keepsStamps (hr : Rewritten ks ks' a.1 a.2 g) {c : Call} {r : Reply}
    (hg : c.Stamps r a ∨ ∀ x, g (ks.record? a.1 a.2) = some x →
      (ks.record? a.1 a.2).map (·.stamp) = some x.stamp) : KeepsStamps ks ks' c r := by
  intro b hthere hnot
  rw [stamp?_eq_record, stamp?_eq_record]
  by_cases hab : a = b
  · subst hab
    rw [hr.tidy.contains_all, Option.isSome_iff_exists] at hthere
    obtain ⟨x, hx⟩ := hthere
    have hkept := (hg.resolve_left hnot) x (hr.self ▸ hx)
    rw [hx, hkept, Option.map_some]
  · rw [hr.other fun hboth => hab (Prod.ext hboth.1 hboth.2)]

/-! ## One call -/

/-- A call that a keyspace and a map answer alike. -/
structure Answered (shards : Nat) (ks : Keyspace) (m : PlainMap) (c : Call) (r : Reply)
    (ks' : Keyspace) (m' : PlainMap) : Prop where
  keyspace : ks.answer c = (r, ks')
  map : m.answer shards c = (r, m')
  mirrors : Mirrors shards ks' m'
  tallied : Tallied ks.stats ks'.stats [c] [r]
  stamps : KeepsStamps ks ks' c r

/-- A call that changes nothing. -/
theorem Mirrors.answered_self (h : Mirrors shards ks m) {c : Call} {r : Reply}
    (hks : ks.answer c = (r, ks)) (hm : m.answer shards c = (r, m)) (hc : c.isGet = false)
    (hr : r.isHit = false) : Answered shards ks m c r ks m :=
  ⟨hks, hm, h, tallied_of_eq rfl hc hr, fun _ _ _ => rfl⟩

theorem expiryAfter_eq (now : Moment) (ttl : Duration) :
    PlainMap.expiryAfter now ttl = deadlineAfter now ttl := by
  unfold PlainMap.expiryAfter deadlineAfter Word.saturatingAdd
  rw [Nat.max_comm]
  rfl

theorem Mirrors.exists_set (h : Mirrors shards ks m) (a : Address) (value : Bytes)
    (ttl : Option Duration) (now : Moment) :
    ∃ r ks' m', Answered shards ks m (.set a value ttl now) r ks' m' := by
  by_cases hshard : a.1 < shards
  · obtain ⟨ks', hset, hstats, hr⟩ := h.tidy.exists_set (h.size ▸ hshard) a.2 value ttl now
    have hexpiry : ttl.map (PlainMap.expiryAfter now) = ttl.map (deadlineAfter now) := by
      simp only [funext (expiryAfter_eq now)]
    refine ⟨.done, ks', _, ?_, ?_, h.insert hr rfl, tallied_of_eq hstats rfl rfl,
      hr.keepsStamps (Or.inl (Or.inl ⟨value, ttl, now, rfl⟩))⟩
    · simp only [answer, hset]
    · simp only [PlainMap.answer, if_pos hshard, hexpiry]
      rfl
  · refine ⟨.refused (.shardOutOfRange a.1 shards), ks, m, h.answered_self ?_ ?_ rfl rfl⟩
    · have hset : ks.set a.1 a.2 value ttl now = .error (.shardOutOfRange a.1 shards) := by
        rw [Keyspace.set, h.size, if_neg hshard]
      simp only [answer, hset]
    · simp only [PlainMap.answer, if_neg hshard]

theorem Mirrors.exists_get (h : Mirrors shards ks m) (a : Address) (now : Moment) :
    ∃ r ks' m', Answered shards ks m (.get a now) r ks' m' := by
  have hread := h.tidy.read a.1 a.2 now
  have hlookup := h.lookup a
  cases hget : ks.get a.1 a.2 now with
  | mk found ks' =>
    have hanswer : ks.answer (.get a now) = (.value found, ks') := by
      simp only [answer, hget]
      rfl
    rw [hget] at hread
    cases hread with
    | expired hx hdue hr hstats =>
      rw [hx, Option.map_some] at hlookup
      refine ⟨_, _, m.erase a, hanswer, ?_, h.erase hr, ?_, hr.keepsStamps (Or.inr nofun)⟩
      · simp only [PlainMap.answer, hlookup]
        exact if_pos hdue
      · rw [hstats]
        exact ⟨rfl, rfl, Nat.succ_le_succ⟩
    | absent hx hr hstats =>
      rw [hx, Option.map_none] at hlookup
      refine ⟨_, _, m, hanswer, ?_, h.keep hr rfl, ?_, hr.keepsStamps (Or.inr ?_)⟩
      · simp only [PlainMap.answer, hlookup]
      · rw [hstats]
        exact ⟨rfl, rfl, Nat.le_succ_of_le⟩
      · intro x hx'
        rw [id, hx] at hx'
        cases hx'
    | hit hx hlive hr hstats =>
      rw [hx, Option.map_some] at hlookup
      refine ⟨_, _, m, hanswer, ?_, h.keep hr (by rw [hx]; rfl), ?_,
        hr.keepsStamps (Or.inl (Or.inr ⟨now, _, rfl, rfl⟩))⟩
      · simp only [PlainMap.answer, hlookup]
        exact if_neg (Bool.eq_false_iff.mp hlive)
      · rw [hstats]
        exact ⟨rfl, Nat.add_right_comm _ _ _, id⟩

/-- A deletion of any kind. -/
theorem Mirrors.exists_remove (h : Mirrors shards ks m) (a : Address) (deferred : Bool) {c : Call}
    (hc : c.isGet = false)
    (hks : ks.answer c = (ks.remove a.1 a.2 deferred).map .flag id)
    (hm : m.answer shards c = (.flag (m.lookup a).isSome, m.erase a)) :
    ∃ r ks' m', Answered shards ks m c r ks' m' := by
  have hr := h.tidy.rewritten_remove a.1 a.2 deferred
  refine ⟨_, _, _, hks, ?_, h.erase hr, ?_, hr.keepsStamps (Or.inr nofun)⟩
  · rw [hm, h.lookup, Option.isSome_map, ← fst_remove_eq ks a.1 a.2 deferred]
    rfl
  · exact tallied_of_eq (stats_remove ks a.1 a.2 deferred) hc rfl

/-- A call that gives a key another deadline, if it is there. -/
theorem Mirrors.exists_deadline (h : Mirrors shards ks m) (a : Address) {c : Call}
    (hc : c.isGet = false) {deadline : Option Nat} {yes : Bool}
    (hks : ks.answer c = (.flag yes, ks')) (hstats : ks'.stats = ks.stats)
    (hr : Rewritten ks ks' a.1 a.2 (Option.map ({ · with deadline })))
    (hnone : m.lookup a = none → m.answer shards c = (.flag yes, m))
    (hsome : ∀ x, m.lookup a = some x →
      m.answer shards c = (.flag yes, m.insert a { x with expiry := deadline })) :
    ∃ r ks' m', Answered shards ks m c r ks' m' := by
  have hlookup := h.lookup a
  have htallied : Tallied ks.stats ks'.stats [c] [.flag yes] := tallied_of_eq hstats hc rfl
  cases hx : ks.record? a.1 a.2 with
  | none =>
    rw [hx] at hlookup
    refine ⟨_, ks', m, hks, hnone hlookup, h.keep hr (by rw [hx]; rfl), htallied,
      hr.keepsStamps (Or.inr ?_)⟩
    intro x' hx'
    rw [hx] at hx'
    cases hx'
  | some x =>
    rw [hx] at hlookup
    refine ⟨_, ks', _, hks, hsome _ hlookup, h.insert hr (by rw [hx]; rfl), htallied,
      hr.keepsStamps (Or.inr ?_)⟩
    intro x' hx'
    rw [hx] at hx' ⊢
    cases hx'
    rfl

theorem Mirrors.exists_expire (h : Mirrors shards ks m) (a : Address) (ttl : Duration)
    (now : Moment) : ∃ r ks' m', Answered shards ks m (.expire a ttl now) r ks' m' := by
  obtain ⟨hfound, hstats, hr⟩ := h.tidy.expire a.1 a.2 ttl now
  have hanswer : ks.answer (.expire a ttl now)
      = (.flag (m.lookup a).isSome, (ks.expire a.1 a.2 ttl now).2) := by
    rw [h.lookup, Option.isSome_map, ← hfound]
    rfl
  refine h.exists_deadline a rfl hanswer hstats hr ?_ ?_
  · intro hnone
    simp only [PlainMap.answer, hnone]
    rfl
  · intro x hx
    simp only [PlainMap.answer, hx, expiryAfter_eq]
    rfl

theorem Mirrors.exists_persist (h : Mirrors shards ks m) (a : Address) :
    ∃ r ks' m', Answered shards ks m (.persist a) r ks' m' := by
  obtain ⟨hfound, hstats, hr⟩ := h.tidy.persist a.1 a.2
  have hanswer : ks.answer (.persist a)
      = (.flag ((m.lookup a).any (·.expiry.isSome)), (ks.persist a.1 a.2).2) := by
    have hany : (m.lookup a).any (·.expiry.isSome) = (ks.persist a.1 a.2).1 := by
      rw [h.lookup, Option.any_map, hfound]
      rfl
    rw [hany]
    rfl
  refine h.exists_deadline a rfl hanswer hstats hr ?_ ?_
  · intro hnone
    simp only [PlainMap.answer, hnone]
    rfl
  · intro x hx
    simp only [PlainMap.answer, hx]
    rfl

/-- A keyspace and a map answer a call alike. -/
theorem Mirrors.exists_answered (h : Mirrors shards ks m) (c : Call) :
    ∃ r ks' m', Answered shards ks m c r ks' m' := by
  cases c with
  | set a value ttl now => exact h.exists_set a value ttl now
  | get a now => exact h.exists_get a now
  | delete a => exact h.exists_remove a false rfl rfl rfl
  | deleteNow a => exact h.exists_remove a false rfl rfl rfl
  | deleteDeferred a => exact h.exists_remove a true rfl rfl rfl
  | expire a ttl now => exact h.exists_expire a ttl now
  | persist a => exact h.exists_persist a
  | timeToLive a now =>
    refine ⟨_, ks, m, h.answered_self rfl ?_ rfl rfl⟩
    have hdeadline : (m.lookup a).bind (·.expiry) = ks.deadline? a.1 a.2 := by
      rw [h.lookup, h.tidy.deadline?_eq]
      cases ks.record? a.1 a.2 <;> rfl
    simp only [PlainMap.answer, hdeadline]
    rfl
  | contains a =>
    refine ⟨_, ks, m, h.answered_self rfl ?_ rfl rfl⟩
    simp only [PlainMap.answer, h.lookup, Option.isSome_map, h.tidy.contains_all]
  | shardLength shard =>
    refine ⟨_, ks, m, h.answered_self rfl ?_ rfl rfl⟩
    simp only [PlainMap.answer, h.card_shard]
  | length =>
    refine ⟨_, ks, m, h.answered_self rfl ?_ rfl rfl⟩
    have hcard := h.card_total .all
    rw [Finset.filter_true_of_mem fun _ _ => nofun] at hcard
    simp only [PlainMap.answer, hcard]
  | volatileLength =>
    refine ⟨_, ks, m, h.answered_self rfl ?_ rfl rfl⟩
    have hcard := h.card_total .volatile
    simp only [true_imp_iff] at hcard
    simp only [PlainMap.answer, hcard]

/-! ## Many calls -/

/-- Calls in turn are answered alike. -/
theorem Mirrors.replay (h : Mirrors shards ks m) (calls : List Call) :
    ∃ replies ks' m', Keyspace.replay Keyspace.answer calls ks = (replies, ks') ∧
      Keyspace.replay (PlainMap.answer shards) calls m = (replies, m') ∧
      Mirrors shards ks' m' ∧ Tallied ks.stats ks'.stats calls replies := by
  induction calls generalizing ks m with
  | nil => exact ⟨[], ks, m, rfl, rfl, h, .refl _⟩
  | cons c calls ih =>
    obtain ⟨r, ks₁, m₁, hfirst⟩ := h.exists_answered c
    obtain ⟨replies, ks', m', hks, hm, hmirrors, htallied⟩ := ih hfirst.mirrors
    refine ⟨r :: replies, ks', m', ?_, ?_, hmirrors, hfirst.tallied.trans htallied⟩
    · simp only [Keyspace.replay, hfirst.keyspace, hks]
    · simp only [Keyspace.replay, hfirst.map, hm]

/-- What is known of a keyspace once some calls are answered, beside their replies. -/
structure Orderly (shards : Nat) (calls : List Call) (replies : List Reply) (ks : Keyspace)
    (m : PlainMap) : Prop where
  /-- It has the items of the map. -/
  lookup (a : Address) : m.lookup a = (ks.record? a.1 a.2).map item
  hits : ks.stats.hits = replies.countP Reply.isHit
  /-- Every read is either a hit or a miss. -/
  reads : ks.stats.hits + ks.stats.misses = calls.countP Call.isGet
  expired_le : ks.stats.expired ≤ ks.stats.misses
  /-- A call about one key does not change the answer for another. -/
  apart (c q : Call) {a b : Address} (hc : c.target? = some a) (hq : q.target? = some b)
    (hne : a ≠ b) : ((ks.answer c).2.answer q).1 = (ks.answer q).1
  /-- The next call stamps no key but one that it sets or finds. -/
  stamps (c : Call) : KeepsStamps ks (ks.answer c).2 c (ks.answer c).1

theorem Mirrors.apart (h : Mirrors shards ks m) (c q : Call) {a b : Address}
    (hc : c.target? = some a) (hq : q.target? = some b) (hne : a ≠ b) :
    ((ks.answer c).2.answer q).1 = (ks.answer q).1 := by
  obtain ⟨r, ks₁, m₁, hfirst⟩ := h.exists_answered c
  obtain ⟨r₁, ks₂, m₂, hsecond⟩ := hfirst.mirrors.exists_answered q
  obtain ⟨r₂, ks₃, m₃, halone⟩ := h.exists_answered q
  have hlookup := PlainMap.lookup_answer (m := m) shards hc hne
  rw [hfirst.map] at hlookup
  have hreply := PlainMap.reply_congr shards hq hlookup
  rw [hsecond.map, halone.map] at hreply
  rw [hfirst.keyspace, hsecond.keyspace, halone.keyspace]
  exact hreply

theorem Created.mirrors {o : Options} (h : Created o ks) : Mirrors o.shards ks ∅ := by
  refine ⟨h.sound.tidy, h.size, ?_⟩
  intro a
  rw [h.record?_eq_none]
  rfl

/-- A new keyspace with at least one shard answers any calls as an empty map does. It counts its
reads, calls about different keys do not disturb each other, and no key is stamped by the way. -/
theorem replay_refines (o : Options) (hshards : 0 < o.shards) :
    ∃ ks, create o = .ok ks ∧ ∀ calls : List Call, ∃ replies ks' m,
      replay answer calls ks = (replies, ks') ∧
      replay (PlainMap.answer o.shards) calls ∅ = (replies, m) ∧
      Orderly o.shards calls replies ks' m := by
  obtain ⟨ks, hks⟩ := exists_create hshards
  have hcreated := created_of_create hks
  refine ⟨ks, hks, ?_⟩
  intro calls
  obtain ⟨replies, ks', m, hkeyspace, hmap, hmirrors, htallied⟩ :=
    hcreated.mirrors.replay calls
  rw [hcreated.stats] at htallied
  exact ⟨replies, ks', m, hkeyspace, hmap,
    { lookup := hmirrors.lookup
      hits := htallied.hits.trans (Nat.zero_add _)
      reads := htallied.reads.trans (Nat.zero_add _)
      expired_le := htallied.expired_le (Nat.le_refl _)
      apart := hmirrors.apart
      stamps := fun c => by
        obtain ⟨r, ks'', m', hnext⟩ := hmirrors.exists_answered c
        rw [hnext.keyspace]
        exact hnext.stamps }⟩

/-- A key that is to live for ten seconds is overwritten and read, is given five seconds, and is
read again when they are over. Another is handed over to be released. -/
def errands : List Call :=
  [.set (0, ⟨#[97]⟩) ⟨#[1]⟩ (some ⟨10, 0⟩) ⟨100⟩, .timeToLive (0, ⟨#[97]⟩) ⟨104⟩,
    .set (0, ⟨#[97]⟩) ⟨#[2]⟩ none ⟨105⟩, .get (0, ⟨#[97]⟩) ⟨120⟩,
    .expire (0, ⟨#[97]⟩) ⟨5, 0⟩ ⟨121⟩, .volatileLength, .get (0, ⟨#[97]⟩) ⟨126⟩,
    .contains (0, ⟨#[97]⟩), .set (1, ⟨#[97]⟩) ⟨#[3]⟩ none ⟨127⟩,
    .set (2, ⟨#[97]⟩) ⟨#[4]⟩ none ⟨127⟩, .length, .deleteDeferred (1, ⟨#[97]⟩), .shardLength 1]

/-- The errands on two shards, with a reclaimer that takes over any value: one read hits, and the
other finds that the key has expired. -/
theorem replay_refines_two : 0 < 2 ∧ ∃ ks replies ks' m,
    create { shards := 2, background := some true, threshold := 0 } = .ok ks ∧
    replay answer errands ks = (replies, ks') ∧
    replay (PlainMap.answer 2) errands ∅ = (replies, m) ∧
    replies = [.done, .seconds (some 6), .done, .value (some ⟨#[2]⟩), .flag true, .number 1,
      .value none, .flag false, .done, .refused (.shardOutOfRange 2 2), .number 1, .flag true,
      .number 0] ∧
    ks'.stats.hits = 1 ∧ ks'.stats.misses = 1 ∧ Orderly 2 errands replies ks' m := by
  obtain ⟨ks, hcreate, hreplay⟩ :=
    replay_refines { shards := 2, background := some true, threshold := 0 } Nat.two_pos
  obtain ⟨replies, ks', m, hkeyspace, hmap, horderly⟩ := hreplay errands
  have hreplies : replies = (replay (PlainMap.answer 2) errands ∅).1 :=
    (congrArg Prod.fst hmap).symm
  have hhits : ks'.stats.hits = 1 := by
    rw [horderly.hits, hreplies]
    rfl
  have hreads : ks'.stats.hits + ks'.stats.misses = 2 := horderly.reads
  exact ⟨Nat.two_pos, ks, replies, ks', m, hcreate, hkeyspace, hmap, hreplies.trans rfl, hhits,
    by omega, horderly⟩

end SampledEviction.Keyspace
