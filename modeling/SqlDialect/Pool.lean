import SqlDialect.Session.Operations

/-!
# Connection pools

A pool lends connections and takes them back.  The connection that has been idle for the
longest time is lent first, after a ping; one that fails the ping is dropped and the next
one is tried.  When none is idle a new connection is made, as long as fewer than the limit
are lent.  Connections are numbered in the order in which they were made.
-/

namespace SqlDialect

/-- A pool of connections to one server. -/
structure Pool where
  /-- At most this many connections are lent. -/
  limit : Nat
  url : String
  /-- The count of the connections that belong to the pool. -/
  size : Nat := 0
  /-- The idle connections, the one that has been idle for the longest time first. -/
  idle : List Nat := []
  /-- The connections lent. -/
  lent : List Nat := []
  /-- How many connections were made. -/
  made : Nat := 0
  session : Session := { reading := .streaming }

namespace Pool

/-- A new connection is made and lent. -/
def connect (p : Pool) : Report Nat × Pool :=
  match ((Session.connect p.url).bind fun _ => Session.learnVersion) p.session with
  | (⟨.ok (), log⟩, session) =>
    let id := p.made + 1
    (⟨.ok id, log⟩, { p with session, made := id, size := p.size + 1, lent := p.lent ++ [id] })
  | (⟨.error f, log⟩, session) => (⟨.error f, log⟩, { p with session })

/-- The first of the idle connections that passes the ping is lent, or else a new one. -/
def lend (p : Pool) : (idle : List Nat) → Report Nat × Pool
  | [] => { p with idle := [] }.connect
  | id :: rest =>
    let (ping, session) := Session.ping p.session
    match ping.result with
    | .ok true => (⟨.ok id, ping.log⟩, { p with session, idle := rest, lent := p.lent ++ [id] })
    | _ =>
      let (report, p) := lend { p with session, size := p.size - 1 } rest
      (⟨report.result, ping.log ++ report.log⟩, p)

/-- A connection is lent, or none when the limit is reached. -/
def get (p : Pool) : Report (Option Nat) × Pool :=
  if p.limit ≤ p.lent.length then (.ok none, p)
  else
    match p.lend p.idle with
    | (⟨.ok id, log⟩, p) => (⟨.ok (some id), log⟩, p)
    | (⟨.error f, log⟩, p) =>
      let f := f.within .checkingOut
      (⟨.error f, log ++ [f.record]⟩, p)

/-- A connection is given back, and becomes idle. -/
def release (id : Nat) (p : Pool) : Pool :=
  { p with lent := p.lent.erase id, idle := p.idle ++ [id] }

/-- A connection on which a failure was met leaves the pool when the failure is a disconnect; the
answer is whether it did. -/
def evict (id : Nat) (f : Failure) (p : Pool) : Report Bool × Pool :=
  if f.isDisconnect then
    (⟨.ok true, [⟨.warning, "Discarding a disconnected OpenEdge connection: " ++ f.message⟩]⟩,
      { p with lent := p.lent.erase id, size := p.size - 1 })
  else (.ok false, p)

/-- How many connections wait to be lent. -/
def available (p : Pool) : Nat := p.size - p.lent.length

end Pool

end SqlDialect
