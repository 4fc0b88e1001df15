import SampledEviction.Text.Blank
import SampledEviction.Text.Case

/-!
# Eviction policies

A policy says which keys may be evicted, all or only those that expire, and which of them
goes first: the least recently used, the least frequently used, the one next to expire, or
any.
-/

namespace SampledEviction

/-- The keys that a policy looks at. -/
inductive Scope where
  /-- All keys. -/
  | all
  /-- The keys with an expiration. -/
  | volatile
  deriving DecidableEq, Repr

/-- How victims are chosen. -/
inductive Policy where
  | volatileLru
  | volatileLfu
  | volatileRandom
  | volatileTtl
  | allKeysLru
  | allKeysLfu
  | allKeysRandom
  | noEviction
  deriving DecidableEq, Repr, Inhabited

namespace Policy

/-- The policy names in the order in which they are listed. -/
def list : List Policy :=
  [volatileLru, volatileLfu, volatileRandom, volatileTtl, allKeysLru, allKeysLfu, allKeysRandom,
    noEviction]

/-- The name of a policy in settings and reports. -/
def name : Policy → String
  | volatileLru => "volatile-lru"
  | volatileLfu => "volatile-lfu"
  | volatileRandom => "volatile-random"
  | volatileTtl => "volatile-ttl"
  | allKeysLru => "allkeys-lru"
  | allKeysLfu => "allkeys-lfu"
  | allKeysRandom => "allkeys-random"
  | noEviction => "noeviction"

/-! ## Families -/

/-- Evicts the least recently used first. -/
def isLru : Policy → Bool
  | volatileLru | allKeysLru => true
  | _ => false

/-- Evicts the least frequently used first. -/
def isLfu : Policy → Bool
  | volatileLfu | allKeysLfu => true
  | _ => false

/-- Evicts the one next to expire first. -/
def isTtl : Policy → Bool
  | volatileTtl => true
  | _ => false

/-- Evicts any. -/
def isRandom : Policy → Bool
  | volatileRandom | allKeysRandom => true
  | _ => false

/-- Ranks keys, and keeps the best of them in a pool. -/
def usesPool (p : Policy) : Bool := p.isLru || p.isLfu || p.isTtl

/-- Never evicts a key without expiration. -/
def isVolatile : Policy → Bool
  | volatileLru | volatileLfu | volatileRandom | volatileTtl => true
  | _ => false

/-- Evicts at all. -/
def evicts (p : Policy) : Bool := p != noEviction

/-- The keys that may be evicted. -/
def scope (p : Policy) : Scope := if p.isVolatile then .volatile else .all

/-! ## Names -/

/-- The policy of exactly this name. -/
def ofName? (s : String) : Option Policy := list.find? (·.name == s)

/-- A name, in lower case, that no policy has. -/
structure Unknown where
  name : String
  deriving DecidableEq, Repr

/-- The wording for an unknown name. -/
def Unknown.message (u : Unknown) : String := "unknown eviction policy: '" ++ u.name ++ "'"

/-- The policy of a name in any case and with white space around it. -/
def parse (s : String) : Except Unknown Policy :=
  let name := String.ofList (Text.lower (Text.trim s.toList))
  match ofName? name with
  | some p => .ok p
  | none => .error ⟨name⟩

theorem ofName?_name (p : Policy) : ofName? p.name = some p := by cases p <;> rfl

end Policy

end SampledEviction
