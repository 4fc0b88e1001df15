import SampledEviction.Keyspace.Charge

/-!
# Releasing in the background

Values handed to the reclaimer are already out of reach; a worker takes their charge off the
counter later, in the order in which they were handed over.

The worker runs beside the keyspace. So handing a value over and releasing it are each made of
steps that are taken as a whole, and steps of the one may come between those of the other:

* the keyspace `announce`s a value, then `send`s it
* the worker `receive`s a value, then `settle`s its charge, then `confirm`s that

A value is announced before it is sent and confirmed after it is settled, so no charge stands
that `pending` does not count.
-/

namespace SampledEviction.Keyspace

/-- What the worker of a reclaimer is about to do. -/
inductive Worker where
  /-- To receive a value. -/
  | receive
  /-- To settle the charge of the value that it received. -/
  | settle (bytes : Nat)
  /-- To confirm that it settled a charge. -/
  | confirm
  deriving DecidableEq, Repr, Inhabited

/-- A reclaimer and the values handed to it. -/
structure Reclaimer where
  /-- The charges of the values that wait, the oldest first. -/
  queue : List Nat := []
  /-- The number of values that are announced and not yet confirmed. -/
  pending : Nat := 0
  worker : Worker := .receive
  /-- The number of values released so far. -/
  released : Nat := 0
  deriving DecidableEq, Repr, Inhabited

namespace Reclaimer

/-! ## Handing over -/

/-- Counts a value that is about to be sent. -/
def announce (r : Reclaimer) : Reclaimer := { r with pending := r.pending + 1 }

/-- Sends a value of some charge to the worker. -/
def send (r : Reclaimer) (bytes : Nat) : Reclaimer := { r with queue := r.queue ++ [bytes] }

/-- Hands over a value of some charge. -/
def defer (r : Reclaimer) (bytes : Nat) : Reclaimer := r.announce.send bytes

/-! ## Releasing -/

/-- The worker receives the oldest value, if one waits. -/
def receive (r : Reclaimer) : Reclaimer :=
  match r.worker, r.queue with
  | .receive, bytes :: rest => { r with queue := rest, worker := .settle bytes }
  | _, _ => r

/-- The worker takes the charge of the value that it received off the counter. -/
def settle (r : Reclaimer) (memory : Counter) : Reclaimer × Counter :=
  match r.worker with
  | .settle bytes => ({ r with worker := .confirm }, memory.sub bytes)
  | _ => (r, memory)

/-- The worker confirms that it settled a charge. -/
def confirm (r : Reclaimer) : Reclaimer :=
  match r.worker with
  | .confirm =>
    { r with pending := r.pending - 1, worker := .receive, released := r.released + 1 }
  | _ => r

/-- Releases the value that the worker is at, or else the oldest. -/
def release (r : Reclaimer) (memory : Counter) : Reclaimer × Counter :=
  let (r, memory) := r.receive.settle memory
  (r.confirm, memory)

/-- Releases up to `n` values. -/
def releaseMany : Nat → Reclaimer → Counter → Reclaimer × Counter
  | 0, r, memory => (r, memory)
  | n + 1, r, memory =>
    let (r, memory) := r.release memory
    releaseMany n r memory

/-- Releases the value that the worker is at, and all that wait. -/
def drain (r : Reclaimer) (memory : Counter) : Reclaimer × Counter :=
  releaseMany (r.queue.length + 1) r memory

end Reclaimer

end SampledEviction.Keyspace
