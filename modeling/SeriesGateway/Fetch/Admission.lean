import SeriesGateway.Config.Fetch
import SeriesGateway.Fetch.Storage

/-! # Admission

Slots that limit how many queries are in flight: in one request, in one range
bucket, and altogether. A query takes one slot of every pool that applies to it,
in this order, and keeps them for its whole round trip. Those who find no free
slot queue up, and a slot given back goes to the one who waits longest.
-/

namespace SeriesGateway.Fetch

inductive PoolId where
  | request (number : Nat)
  | bucket (position : Nat)
  | all
deriving DecidableEq, Repr

/-- The slots of one pool. -/
structure Pool where
  limit : Nat
  free : Nat
  /-- Who has a slot, also without having noticed yet. -/
  holders : List Ticket
  /-- Who waits for a slot, the longest wait first. -/
  waiting : List Ticket
deriving DecidableEq, Repr

namespace Pool

/-- The slots that a pool can have at most, an eighth of what a machine word counts. -/
def capacity : Nat := UInt64.size / 8 - 1

def ofLimit (limit : Nat) : Pool := ⟨limit, limit, [], []⟩

/-- Asks for a slot and tells whether there is one; if not, the ticket queues up. -/
def claim (pool : Pool) (ticket : Ticket) : Bool × Pool :=
  if ticket ∈ pool.holders then (true, pool)
  else if ticket ∈ pool.waiting then (false, pool)
  else if 0 < pool.free then
    (true, { pool with free := pool.free - 1, holders := pool.holders ++ [ticket] })
  else (false, { pool with waiting := pool.waiting ++ [ticket] })

/-- Gives up the slot of a ticket or its place in the queue, and tells who has
the slot now. -/
def leave (pool : Pool) (ticket : Ticket) : Option Ticket × Pool :=
  if ticket ∈ pool.holders then
    match pool.waiting with
    | [] =>
      (none, { pool with free := pool.free + 1, holders := pool.holders.erase ticket })
    | next :: rest =>
      (some next, { pool with holders := pool.holders.erase ticket ++ [next], waiting := rest })
  else (none, { pool with waiting := pool.waiting.erase ticket })

end Pool

/-- The pools of a run. Pools without a limit are not in it. -/
structure Ledger where
  pools : List (PoolId × Pool)
deriving DecidableEq, Repr

namespace Ledger

/-- A pool, unless the limit is zero, which is none. -/
def limited (id : PoolId) (limit : Nat) : List (PoolId × Pool) :=
  if limit = 0 then [] else [(id, .ofLimit limit)]

/-- The settings whose pools can be made. Any others crash whoever makes the pools, before a
query is sent. -/
def CanOpen (config : FetchConfig) : Prop :=
  config.maxConcurrentQueries ≤ Pool.capacity ∧
    (∀ limit ∈ config.rangeLimits, limit.maxConcurrent ≤ Pool.capacity) ∧
      config.maxQueriesPerRequest ≤ Pool.capacity

/-- The pools for a number of requests, all slots free. -/
def ofConfig (config : FetchConfig) (requests : Nat) : Ledger :=
  ⟨limited .all config.maxConcurrentQueries ++
    (config.rangeLimits.zipIdx.flatMap fun (limit, i) => limited (.bucket i) limit.maxConcurrent) ++
    (List.range requests).flatMap fun i => limited (.request i) config.maxQueriesPerRequest⟩

def pool? (ledger : Ledger) (id : PoolId) : Option Pool := ledger.pools.lookup id

/-- Replaces a pool. -/
def put (ledger : Ledger) (id : PoolId) (pool : Pool) : Ledger :=
  ⟨ledger.pools.map fun entry => if entry.1 = id then (id, pool) else entry⟩

/-- Asks for a slot of one pool; where there is no pool nobody has to wait. -/
def claim (ledger : Ledger) (ticket : Ticket) (id : PoolId) : Bool × Ledger :=
  match ledger.pool? id with
  | none => (true, ledger)
  | some pool =>
    let (granted, pool) := pool.claim ticket
    (granted, ledger.put id pool)

/-- Asks for a slot of every pool in order, up to the first that has none. -/
def enter (ledger : Ledger) (ticket : Ticket) : List PoolId → Bool × Ledger
  | [] => (true, ledger)
  | id :: rest =>
    match ledger.claim ticket id with
    | (true, ledger) => ledger.enter ticket rest
    | (false, ledger) => (false, ledger)

/-- Gives up everything that a ticket has in the given pools, and tells who has
the slots now. -/
def leave (ledger : Ledger) (ticket : Ticket) : List PoolId → List Ticket × Ledger
  | [] => ([], ledger)
  | id :: rest =>
    match ledger.pool? id with
    | none => ledger.leave ticket rest
    | some pool =>
      let (next, pool) := pool.leave ticket
      let (others, ledger) := (ledger.put id pool).leave ticket rest
      (next.toList ++ others, ledger)

end Ledger

/-- The pools that apply to a query of a request over a range, in the order they
are asked. -/
def poolsFor (config : FetchConfig) (request : Nat) (range : UInt32) : List PoolId :=
  [.request request] ++ ((config.bucket? range).map .bucket).toList ++ [.all]

end SeriesGateway.Fetch
