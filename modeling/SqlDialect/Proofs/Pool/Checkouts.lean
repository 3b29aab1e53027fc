import SqlDialect.Pool
import SqlDialect.Proofs.Session.Footprint

/-!
# Checkouts and runs of pools

How a pool comes to lend a connection.  Idle connections are pinged, the one that has been
idle for the longest time first, until one passes.  Those that fail are dropped, and when
none passes a connection is made, which is not pinged.  And what happens to a pool, one move
after the other: connections are asked for, and those that are lent are given back, offered
for eviction after a failure, or asked something.  The history of a run tells which connections
were lent, and what was done for that, and which were evicted.
-/

namespace SqlDialect

/-! ## Pings -/

/-- The calls of a ping that gets a cursor. -/
def OpenEdge.pingCalls : List Call := [.cursor, .execute pingQuery, .close]

namespace Session

/-- The next ping finds the connection usable. -/
def passesPing (s : Session) : Bool :=
  match (ping s).1.result with
  | .ok true => true
  | _ => false

theorem passesPing_eq_true {s : Session} :
  s.passesPing = true ↔ (ping s).1.result = .ok true
  := by
  rw [passesPing]
  split
  next h => simp [h]
  next h => simpa using h

/-- A failure is no passed ping. -/
theorem result_pingReport_error (f : Failure) :
  (pingReport (.error f)).result ≠ .ok true
  := by
  rw [pingReport]
  split
  · simp
  · intro h
    cases h

theorem calls_close (s : Script) :
  (Cursor.close s).2.calls = s.calls ++ [.close]
  := by
  rw [Cursor.close]
  dsimp only
  split <;> rfl

/-- A ping makes its calls, or none at all when it gets no cursor and fails. -/
theorem calls_ping (s : Session) :
  ∃ calls, (ping s).2.script.calls = s.script.calls ++ calls
    ∧ (calls = OpenEdge.pingCalls ∨ calls = [] ∧ s.passesPing = false)
  := by
  cases hfaults : s.script.faults.cursor with
  | cons f rest =>
    have hcreate : Cursor.create s.script
        = (.error f, { s.script with faults.cursor := rest }) := by
      rw [Cursor.create, hfaults]
    have hping : Cursor.ping s.script = (.error f, { s.script with faults.cursor := rest }) :=
      Exchange.bind_of_error hcreate
    use []
    constructor
    · rw [ping, Operation.exchange, hping, List.append_nil]
    · right
      use rfl
      rw [Bool.eq_false_iff, Ne, passesPing_eq_true, ping, Operation.exchange, hping]
      apply result_pingReport_error
  | nil =>
    have hcreate : Cursor.create s.script = (.ok {}, s.script.record .cursor) := by
      rw [Cursor.create, hfaults]
    have hexecute : ∀ script : Script,
        ((do
          let _ ← Cursor.execute OpenEdge.pingQuery []
          return () : Exchange Unit) script).2.calls
          = script.calls ++ [.execute OpenEdge.pingQuery] := by
      intro script
      have h := Cursor.execute_eq OpenEdge.pingQuery [] script
      generalize script.next.result = result at h
      cases result with
      | error f => rw [Exchange.bind_of_error h]
      | ok found =>
        rw [Exchange.bind_of_ok h]
        rfl
    use OpenEdge.pingCalls
    constructor
    · change (Cursor.ping s.script).2.calls = _
      rw [Cursor.ping, Exchange.bind_of_ok hcreate, Exchange.script_andFinally, calls_close,
        hexecute, List.append_assoc]
      apply List.append_assoc
    · left
      rfl

end Session

/-- The calls that pings make, whether or not they pass: one that passes makes its calls, and one
that fails makes them or none. -/
inductive OpenEdge.PingsCall : List (Nat × Bool) → List Call → Prop
  | nil : PingsCall [] []
  | made {pings : List (Nat × Bool)} {calls : List Call} (id : Nat) (passed : Bool)
    (hrest : PingsCall pings calls) : PingsCall ((id, passed) :: pings) (pingCalls ++ calls)
  | missed {pings : List (Nat × Bool)} {calls : List Call} (id : Nat)
    (hrest : PingsCall pings calls) : PingsCall ((id, false) :: pings) calls

namespace OpenEdge.PingsCall

theorem append {pings pings' : List (Nat × Bool)} {calls calls' : List Call}
    (h : PingsCall pings calls) (h' : PingsCall pings' calls') :
  PingsCall (pings ++ pings') (calls ++ calls')
  := by
  induction h with
  | nil => apply h'
  | made id passed _ ih =>
    rw [List.append_assoc]
    apply ih.made
  | missed id _ ih => apply ih.missed

end OpenEdge.PingsCall

namespace Session

/-- The calls of the next ping. -/
theorem pingsCall_ping (id : Nat) (s : Session) :
  ∃ calls, (ping s).2.script.calls = s.script.calls ++ calls
    ∧ OpenEdge.PingsCall [(id, s.passesPing)] calls
  := by
  obtain ⟨calls, hcalls, rfl | ⟨rfl, hfails⟩⟩ := calls_ping s
  · use OpenEdge.pingCalls, hcalls
    rw [← List.append_nil OpenEdge.pingCalls]
    apply OpenEdge.PingsCall.nil.made
  · use [], hcalls
    rw [hfails]
    apply OpenEdge.PingsCall.nil.missed

/-- The pings of these connections fail, one after the other. -/
inductive FailsPings : Session → List Nat → Session → Prop
  | nil (s : Session) : FailsPings s [] s
  | cons {s s' : Session} {failed : List Nat} (id : Nat) (h : s.passesPing = false)
    (hrest : FailsPings (ping s).2 failed s') : FailsPings s (id :: failed) s'

namespace FailsPings

variable {s s' : Session} {failed : List Nat}

theorem grown (h : FailsPings s failed s') :
  s.Grown Call.OnCursor s'
  := by
  induction h with
  | nil s => apply Grown.refl
  | cons id _ _ ih => apply (adds_ping _).trans ih

theorem pingsCall (h : FailsPings s failed s') :
  ∃ calls, s'.script.calls = s.script.calls ++ calls
    ∧ OpenEdge.PingsCall (failed.map (·, false)) calls
  := by
  induction h with
  | nil s =>
    use [], (List.append_nil _).symm
    apply OpenEdge.PingsCall.nil
  | @cons s _ _ id hfails _ ih =>
    obtain ⟨first, hfirst, hping⟩ := pingsCall_ping id s
    obtain ⟨calls, hcalls, hpings⟩ := ih
    rw [hfails] at hping
    use first ++ calls
    constructor
    · rw [hcalls, hfirst, List.append_assoc]
    · apply hping.append hpings

end FailsPings

end Session

/-! ## Checkouts -/

/-- What is done to lend a connection. -/
structure Checkout where
  /-- The connections that are pinged, in order, and whether they pass. -/
  pings : List (Nat × Bool)
  /-- Whether a connection is made. -/
  connects : Bool

namespace Pool

/-- What is done to lend a connection when these are idle. -/
def checkout (s : Session) : (idle : List Nat) → Checkout
  | [] => ⟨[], true⟩
  | id :: rest =>
    if s.passesPing then ⟨[(id, true)], false⟩
    else
      let later := checkout (Session.ping s).2 rest
      ⟨(id, false) :: later.pings, later.connects⟩

variable {p : Pool} {idle : List Nat}

/-- The pool without connections that failed their pings. -/
def dropping (failed : List Nat) (s : Session) (p : Pool) : Pool :=
  { p with session := s, size := p.size - failed.length }

theorem lend_of_passes (id : Nat) (rest : List Nat) (h : p.session.passesPing = true) :
  (p.lend (id :: rest)).1.result = .ok id
    ∧ (p.lend (id :: rest)).2
      = { p with session := (Session.ping p.session).2, idle := rest, lent := p.lent ++ [id] }
  := by
  have hresult := Session.passesPing_eq_true.mp h
  rw [lend]
  dsimp only
  rw [hresult]
  exact ⟨rfl, rfl⟩

theorem lend_of_fails (id : Nat) (rest : List Nat) (h : p.session.passesPing = false) :
  (p.lend (id :: rest)).1.result
      = ((p.dropping [id] (Session.ping p.session).2).lend rest).1.result
    ∧ (p.lend (id :: rest)).2 = ((p.dropping [id] (Session.ping p.session).2).lend rest).2
  := by
  have hresult : (Session.ping p.session).1.result ≠ .ok true := by
    rw [Ne, ← Session.passesPing_eq_true, h]
    apply Bool.false_ne_true
  rw [lend]
  dsimp only
  split
  next hpassed => cases hresult hpassed
  next => exact ⟨rfl, rfl⟩

theorem dropping_dropping (p : Pool) (id : Nat) (failed : List Nat) (s s' : Session) :
  (p.dropping [id] s).dropping failed s' = p.dropping (id :: failed) s'
  := by
  have hsize : p.size - 1 - failed.length = p.size - (failed.length + 1) := by omega
  change { p with session := s', size := p.size - 1 - failed.length } = _
  rw [hsize]
  rfl

/-- Lending a connection when some are idle: what is done, what comes of it, and the pool after it.
The first idle connections fail their pings and are dropped, and then either the next one passes and
is lent, or there is none and a connection is made. -/
inductive Lending (p : Pool) : List Nat → Checkout → Except Failure Nat → Pool → Prop
  | reuses {failed : List Nat} {s : Session} (id : Nat) (rest : List Nat)
    (hfails : p.session.FailsPings failed s) (hpasses : s.passesPing = true) :
    Lending p (failed ++ id :: rest) ⟨failed.map (·, false) ++ [(id, true)], false⟩ (.ok id)
      { p.dropping failed (Session.ping s).2 with idle := rest, lent := p.lent ++ [id] }
  | makes {failed : List Nat} {s : Session} (hfails : p.session.FailsPings failed s) :
    Lending p failed ⟨failed.map (·, false), true⟩
      { p.dropping failed s with idle := [] }.connect.1.result
      { p.dropping failed s with idle := [] }.connect.2

/-- A connection that fails its ping is dropped before the others are tried. -/
theorem Lending.cons {c : Checkout} {result : Except Failure Nat} {after : Pool} (id : Nat)
    (hfails : p.session.passesPing = false)
    (h : Lending (p.dropping [id] (Session.ping p.session).2) idle c result after) :
  Lending p (id :: idle) ⟨(id, false) :: c.pings, c.connects⟩ result after
  := by
  cases h with
  | reuses id' rest hrest hpasses =>
    rw [dropping_dropping]
    apply reuses id' rest (hrest.cons id hfails) hpasses
  | makes hrest =>
    rw [dropping_dropping]
    apply makes (hrest.cons id hfails)

theorem lending (p : Pool) (idle : List Nat) :
  Lending p idle (checkout p.session idle) (p.lend idle).1.result (p.lend idle).2
  := by
  induction idle generalizing p with
  | nil => apply Lending.makes (.nil p.session)
  | cons id rest ih =>
    rw [checkout]
    split
    next hpasses =>
      obtain ⟨hresult, hafter⟩ := lend_of_passes id rest hpasses
      rw [hresult, hafter]
      apply Lending.reuses id rest (.nil p.session) hpasses
    next hpasses =>
      rw [Bool.not_eq_true] at hpasses
      obtain ⟨hresult, hafter⟩ := lend_of_fails id rest hpasses
      rw [hresult, hafter]
      apply Lending.cons id hpasses
      apply ih

/-- The pool with one more connection, which is lent. -/
def joined (p : Pool) : Pool :=
  { p with
    session := { p.session with
      version := p.session.version.or (some .unknown)
      script := p.session.script.record (.connect p.url) }
    made := p.made + 1
    size := p.size + 1
    lent := p.lent ++ [p.made + 1] }

/-- The pool does not ask servers for their versions, and no failure to connect is to come. -/
structure Ready (p : Pool) : Prop where
  reading : p.session.reading = .streaming
  connect : p.session.script.faults.connect = []

theorem Ready.connect_eq (h : p.Ready) :
  p.connect = (.ok (p.made + 1), p.joined)
  := by
  have hlearn : Session.learnVersion
      { p.session with script := p.session.script.record (.connect p.url) }
      = (.ok (), p.joined.session) := Session.learnVersion_of_streaming h.reading
  rw [Pool.connect, Operation.bind, Session.connect_of_faults_nil p.url h.connect]
  dsimp only [Report.ok]
  rw [hlearn]
  rfl

theorem get_of_room (h : p.lent.length < p.limit) :
  p.get.1.result = ((p.lend p.idle).1.result.mapError (·.within .checkingOut)).map some
    ∧ p.get.2 = (p.lend p.idle).2
  := by
  rw [get, if_neg (Nat.not_le.mpr h)]
  rcases p.lend p.idle with ⟨⟨_ | id, log⟩, after⟩ <;> exact ⟨rfl, rfl⟩

end Pool

/-! ## Runs -/

namespace Pool

/-- What happens to a pool. -/
inductive Move
  | get
  | release (id : Nat)
  | evict (id : Nat) (f : Failure)
  | ask (id : Nat) (r : Request)

/-- What became of a connection in the course of a move. -/
inductive Event
  | lent (id : Nat) (c : Checkout)
  | evicted (id : Nat)

/-- A pool without connections. -/
def new (limit : Nat) (url : String) (script : Script) : Pool :=
  { limit, url, session := { reading := .streaming, script } }

/-- The pool after a move. -/
def play (p : Pool) : Move → Pool
  | .get => p.get.2
  | .release id => p.release id
  | .evict id f => (p.evict id f).2
  | .ask _ r => { p with session := (r.operation p.session).2 }

/-- What became of connections in a move. -/
def events (p : Pool) : Move → List Event
  | .get =>
    match p.get.1.result with
    | .ok (some id) => [.lent id (checkout p.session p.idle)]
    | _ => []
  | .release _ => []
  | .evict id f => if f.isDisconnect then [.evicted id] else []
  | .ask _ _ => []

/-- The pool after moves, one after the other. -/
def playAll (p : Pool) : List Move → Pool
  | [] => p
  | m :: rest => (p.play m).playAll rest

/-- What became of connections in moves. -/
def history (p : Pool) : List Move → List Event
  | [] => []
  | m :: rest => p.events m ++ (p.play m).history rest

/-- The move is one that users of the pool make: they ask for a connection while fewer than the
limit are lent, and only use connections that are lent, which they do not connect again. -/
def Allows (p : Pool) : Move → Prop
  | .get => p.lent.length < p.limit
  | .release id => id ∈ p.lent
  | .evict id _ => id ∈ p.lent
  | .ask id r => id ∈ p.lent ∧ ∀ url, r ≠ .connect url

/-- Each of the moves is allowed when its turn comes. -/
def AllowsAll (p : Pool) : List Move → Prop
  | [] => True
  | m :: rest => p.Allows m ∧ (p.play m).AllowsAll rest

end Pool

end SqlDialect
