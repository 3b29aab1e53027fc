import SqlDialect.Proofs.Pool.Checkouts

/-!
# Conservation of connections

A pool keeps account of its connections.  Each connection that was made is idle or lent, or
failed a ping, or was evicted, and only one of these; one that is out of the pool does not
come back.  So the size of the pool is right at any time, and within the limit.
-/

namespace SqlDialect

/-- The connections whose pings failed. -/
def Checkout.failed (c : Checkout) : List Nat :=
  (c.pings.filter fun ping => !ping.2).map Prod.fst

/-! ## Members -/

/-- The connections `members`, of which so many were made, are different ones, and none of them is
gone. -/
structure Members (made : Nat) (gone members : List Nat) : Prop where
  nodup : members.Nodup
  le_made : ∀ id ∈ members, id ≤ made
  gone_le_made : ∀ id ∈ gone, id ≤ made
  not_mem_of_gone : ∀ id ∈ gone, id ∉ members

namespace Members

variable {made : Nat} {gone dropped members members' : List Nat}

/-- No connections are members of an empty pool. -/
theorem empty :
  Members 0 [] []
  := by
  constructor <;> simp

/-- Members that are dropped are gone. -/
theorem drop (h : Members made gone members) (hperm : members.Perm (dropped ++ members')) :
  Members made (gone ++ dropped) members'
  := by
  obtain ⟨-, hnodup, hdisjoint⟩ := List.nodup_append.mp (hperm.nodup_iff.mp h.nodup)
  have hmem : ∀ id ∈ dropped ++ members', id ∈ members := fun id hid => hperm.mem_iff.mpr hid
  constructor
  case nodup => apply hnodup
  case le_made =>
    intro id hid
    apply h.le_made id (hmem id (List.mem_append_right _ hid))
  case gone_le_made =>
    rw [List.forall_mem_append]
    use h.gone_le_made
    intro id hid
    apply h.le_made id (hmem id (List.mem_append_left _ hid))
  case not_mem_of_gone =>
    rw [List.forall_mem_append]
    constructor
    · intro id hid hmember
      apply h.not_mem_of_gone id hid (hmem id (List.mem_append_right _ hmember))
    · intro id hid hmember
      apply hdisjoint id hid id hmember rfl

/-- A connection that was just made is a new member. -/
theorem make (h : Members made gone members) :
  Members (made + 1) gone (members ++ [made + 1])
  := by
  constructor
  case nodup =>
    rw [List.nodup_append]
    refine ⟨h.nodup, by simp, ?_⟩
    rintro id hid new hnew rfl
    rw [List.mem_singleton] at hnew
    have hle := h.le_made id hid
    omega
  case le_made =>
    intro id hid
    obtain hid | hid := List.mem_append.mp hid
    · have hle := h.le_made id hid
      omega
    · rw [List.mem_singleton] at hid
      omega
  case gone_le_made =>
    intro id hid
    have hle := h.gone_le_made id hid
    omega
  case not_mem_of_gone =>
    intro id hid hmember
    obtain hmember | hmember := List.mem_append.mp hmember
    · apply h.not_mem_of_gone id hid hmember
    · rw [List.mem_singleton] at hmember
      have hle := h.gone_le_made id hid
      omega

end Members

/-! ## Histories -/

namespace Pool

/-- The connections whose pings failed in an event. -/
def Event.failed : Event → List Nat
  | lent _ c => c.failed
  | evicted _ => []

/-- The connections that were evicted in an event. -/
def Event.evictions : Event → List Nat
  | lent _ _ => []
  | evicted id => [id]

/-- The connections that left the pool in an event. -/
def Event.gone (e : Event) : List Nat := e.failed ++ e.evictions

/-- The connection that was lent in an event. -/
def Event.lent? : Event → Option Nat
  | lent id _ => some id
  | evicted _ => none

/-- A connection is lent for a good reason: it passed its ping, just after those before it in the
row failed theirs, or it was made, after all that were idle failed theirs, and not pinged. -/
inductive Event.Sound : Event → Prop
  | reused {id : Nat} {failed : List Nat} (h : id ∉ failed) :
    Sound (lent id ⟨failed.map (·, false) ++ [(id, true)], false⟩)
  | made {id : Nat} {failed : List Nat} (h : id ∉ failed) :
    Sound (lent id ⟨failed.map (·, false), true⟩)
  | evicted (id : Nat) : Sound (evicted id)

/-- The connections that left the pool in the course of a history. -/
def goneIn (history : List Event) : List Nat := history.flatMap Event.gone

/-- Connections leave the pool by failing a ping or by being evicted. -/
theorem length_goneIn (history : List Event) :
  (goneIn history).length
    = (history.flatMap Event.failed).length + (history.flatMap Event.evictions).length
  := by
  induction history with
  | nil => rfl
  | cons e rest ih =>
    rw [goneIn] at ih
    rw [goneIn, List.flatMap_cons, List.flatMap_cons, List.flatMap_cons, List.length_append,
      List.length_append, List.length_append, ih, Event.gone, List.length_append]
    omega

variable {p p' : Pool} {start : Script} {h events : List Event}

/-- What a move can do to a pool. -/
inductive Happens (p : Pool) : List Event → Pool → Prop
  | reuses {id : Nat} {failed rest : List Nat} {s : Session}
    (hidle : p.idle = failed ++ id :: rest) (hfails : p.session.FailsPings failed s)
    (hpasses : s.passesPing = true) :
    Happens p [.lent id ⟨failed.map (·, false) ++ [(id, true)], false⟩]
      { p.dropping failed (Session.ping s).2 with idle := rest, lent := p.lent ++ [id] }
  | makes {s : Session} (hroom : p.lent.length < p.limit)
    (hfails : p.session.FailsPings p.idle s) :
    Happens p [.lent (p.made + 1) ⟨p.idle.map (·, false), true⟩]
      { p.dropping p.idle s with idle := [] }.joined
  | returns {id : Nat} (hlent : id ∈ p.lent) : Happens p [] (p.release id)
  | evicts {id : Nat} (hlent : id ∈ p.lent) :
    Happens p [.evicted id] { p with lent := p.lent.erase id, size := p.size - 1 }
  | works {s : Session} (hscript : p.session.script.Grown Call.OnCursor s.script)
    (hreading : s.reading = p.session.reading) : Happens p [] { p with session := s }

/-- A pool is still ready after it has dropped connections that failed their pings. -/
theorem Ready.dropping (hp : p.Ready) {failed : List Nat} {s : Session}
    (hfails : p.session.FailsPings failed s) :
  { p.dropping failed s with idle := [] }.Ready
  := by
  have hgrown := hfails.grown
  constructor
  · apply hgrown.reading.trans hp.reading
  · apply hgrown.script.connect hp.connect

/-- A connection that is asked for is lent. -/
theorem happens_get (hp : p.Ready) (hroom : p.lent.length < p.limit) :
  ∃ id, p.get.1.result = .ok (some id)
    ∧ Happens p [.lent id (checkout p.session p.idle)] p.get.2
  := by
  obtain ⟨hresult, hafter⟩ := get_of_room hroom
  have hlending := p.lending p.idle
  rw [hresult, hafter]
  generalize hidle : p.idle = idle at hlending ⊢
  generalize checkout p.session idle = c at hlending ⊢
  generalize (p.lend idle).1.result = result, (p.lend idle).2 = after at hlending ⊢
  cases hlending with
  | reuses id rest hfails hpasses => exact ⟨id, rfl, .reuses hidle hfails hpasses⟩
  | makes hfails =>
    have hready := Ready.dropping hp hfails
    rw [hready.connect_eq]
    subst hidle
    exact ⟨p.made + 1, rfl, .makes hroom hfails⟩

/-- A move that is allowed does one of these things. -/
theorem happens (hp : p.Ready) {m : Move} (hm : p.Allows m) :
  Happens p (p.events m) (p.play m)
  := by
  cases m with
  | get =>
    obtain ⟨id, hresult, hget⟩ := happens_get hp hm
    rw [events, hresult]
    apply hget
  | release id => apply Happens.returns hm
  | evict id f =>
    rw [events, play, evict]
    split
    · apply Happens.evicts hm
    · apply Happens.works (Script.Grown.refl _) rfl
  | ask id r =>
    obtain ⟨-, hconnect⟩ := hm
    obtain hworks | rfl := Request.worksOnCursor_or hconnect
    · have hgrown := hworks.adds p.session
      apply Happens.works hgrown.script hgrown.reading
    · rw [play, Request.learnVersion_of_streaming hp.reading]
      exact .works (Script.Grown.refl p.session.script) rfl

/-- The connections of a pool are accounted for after a history that began with a script. -/
structure Accounted (start : Script) (h : List Event) (p : Pool) : Prop where
  ready : p.Ready
  members : Members p.made (goneIn h) (p.idle ++ p.lent)
  size : p.size = (p.idle ++ p.lent).length
  limit : p.size ≤ p.limit
  balance : p.session.script.connects = start.connects + p.size + (goneIn h).length
  infos : p.session.script.infos = start.infos

/-- A new pool is accounted for by an empty history. -/
theorem accounted_new (limit : Nat) (url : String) (hstart : start.faults.connect = []) :
  Accounted start [] (new limit url start)
  := by
  constructor
  case ready => exact ⟨rfl, hstart⟩
  case members => apply Members.empty
  case limit => apply Nat.zero_le
  all_goals rfl

/-- All connections that were pinged failed where only failed ones are listed. -/
theorem failed_map_false (failed : List Nat) (connects : Bool) :
  Checkout.failed ⟨failed.map (·, false), connects⟩ = failed
  := by
  simp [Checkout.failed, List.filter_map, Function.comp_def]

/-- The last connection that was pinged passed, and those before it failed. -/
theorem failed_map_false_append (failed : List Nat) (id : Nat) (connects : Bool) :
  Checkout.failed ⟨failed.map (·, false) ++ [(id, true)], connects⟩ = failed
  := by
  simp [Checkout.failed, List.filter_map, Function.comp_def]

/-- What left the pool in two histories left it in one after the other. -/
theorem goneIn_append (h events : List Event) :
  goneIn (h ++ events) = goneIn h ++ goneIn events
  := List.flatMap_append

/-- What left the pool in a single event left it in that event. -/
theorem goneIn_singleton (e : Event) :
  goneIn [e] = e.gone
  := List.flatMap_singleton Event.gone e

/-- The connections stay accounted for when some are dropped, and the others change places. -/
theorem Accounted.drop (hp : Accounted start h p) {dropped : List Nat}
    (hgone : goneIn events = dropped) (hlimit : p'.limit = p.limit) (hmade : p'.made = p.made)
    (hsize : p'.size = p.size - dropped.length)
    (hperm : (p.idle ++ p.lent).Perm (dropped ++ (p'.idle ++ p'.lent)))
    (hscript : p.session.script.Grown Call.OnCursor p'.session.script)
    (hreading : p'.session.reading = p.session.reading) :
  Accounted start (h ++ events) p'
  := by
  have hcount := hperm.length_eq
  rw [← hp.size, List.length_append] at hcount
  constructor
  case ready => exact ⟨hreading.trans hp.ready.reading, hscript.connect hp.ready.connect⟩
  case members =>
    rw [goneIn_append, hgone, hmade]
    apply hp.members.drop hperm
  case size => omega
  case limit =>
    rw [hsize, hlimit]
    apply Nat.le_trans (Nat.sub_le _ _) hp.limit
  case balance =>
    rw [goneIn_append, hgone, List.length_append, hscript.connects_eq, hp.balance]
    omega
  case infos => apply hscript.infos_eq.trans hp.infos

/-- They stay accounted for when one is made. -/
theorem Accounted.join (hp : Accounted start h p) (hroom : p.size < p.limit) :
  Accounted start h p.joined
  := by
  constructor
  case ready => exact ⟨hp.ready.reading, hp.ready.connect⟩
  case members =>
    change Members (p.made + 1) (goneIn h) (p.idle ++ (p.lent ++ [p.made + 1]))
    rw [← List.append_assoc]
    apply hp.members.make
  case size =>
    change p.size + 1 = (p.idle ++ (p.lent ++ [p.made + 1])).length
    rw [← List.append_assoc, List.length_append, ← hp.size]
    rfl
  case limit => apply hroom
  case balance =>
    have hconnects : p.joined.session.script.connects = p.session.script.connects + 1 := by
      change (p.session.script.calls ++ [Call.connect p.url]).countP Call.isConnect = _
      rw [List.countP_append]
      rfl
    rw [hconnects, hp.balance]
    change _ = start.connects + (p.size + 1) + (goneIn h).length
    omega
  case infos =>
    apply Eq.trans _ hp.infos
    change (p.session.script.calls ++ [Call.connect p.url]).countP Call.isInfo = _
    rw [List.countP_append]
    rfl

/-- Whatever happens, the connections stay accounted for. -/
theorem Accounted.happens (hp : Accounted start h p) (hstep : Happens p events p') :
  Accounted start (h ++ events) p'
  := by
  cases hstep with
  | @reuses id failed rest s hidle hfails hpasses =>
    have hgrown := hfails.grown.trans (Session.adds_ping s)
    refine hp.drop ?_ rfl rfl rfl ?_ hgrown.script hgrown.reading
    · rw [goneIn_singleton, Event.gone, Event.failed, Event.evictions, failed_map_false_append,
        List.append_nil]
    · rw [hidle, List.append_assoc]
      apply List.Perm.append_left failed
      apply (List.perm_append_singleton id (rest ++ p.lent)).symm.trans
      rw [List.append_assoc]
  | @makes s hroom hfails =>
    -- all that were idle are dropped before the new one joins
    have hgrown := hfails.grown
    have hdropped : Accounted start (h ++ [.lent (p.made + 1) ⟨p.idle.map (·, false), true⟩])
        { p.dropping p.idle s with idle := [] } := by
      refine hp.drop ?_ rfl rfl rfl ?_ hgrown.script hgrown.reading
      · rw [goneIn_singleton, Event.gone, Event.failed, Event.evictions, failed_map_false,
          List.append_nil]
      · apply List.Perm.refl
    apply hdropped.join
    rw [hdropped.size]
    apply hroom
  | @returns id hlent =>
    refine hp.drop rfl rfl rfl rfl ?_ (Script.Grown.refl _) rfl
    apply (List.Perm.append_left p.idle (List.perm_cons_erase hlent)).trans
    change (p.idle ++ ([id] ++ p.lent.erase id)).Perm (p.idle ++ [id] ++ p.lent.erase id)
    rw [List.append_assoc]
  | @evicts id hlent =>
    refine hp.drop rfl rfl rfl rfl ?_ (Script.Grown.refl _) rfl
    apply (List.Perm.append_left p.idle (List.perm_cons_erase hlent)).trans
    apply List.perm_middle
  | works hscript hreading => exact hp.drop rfl rfl rfl rfl (List.Perm.refl _) hscript hreading

/-- A history in which connections are lent for a good reason, and not after they left the pool. -/
structure Recorded (h : List Event) : Prop where
  sound : ∀ e ∈ h, e.Sound
  parted : h.Pairwise fun e later => ∀ id ∈ e.gone, later.lent? ≠ some id

/-- An empty history is recorded. -/
theorem recorded_nil :
  Recorded []
  := by
  constructor <;> simp

/-- An event is recorded if it is sound and does not lend a connection that left the pool. -/
theorem Recorded.snoc (hr : Recorded h) {e : Event} (hsound : e.Sound)
    (hlent : ∀ id ∈ goneIn h, e.lent? ≠ some id) :
  Recorded (h ++ [e])
  := by
  constructor
  case sound =>
    intro event hevent
    obtain hevent | hevent := List.mem_append.mp hevent
    · apply hr.sound event hevent
    · obtain rfl := List.mem_singleton.mp hevent
      apply hsound
  case parted =>
    rw [List.pairwise_append]
    refine ⟨hr.parted, List.pairwise_singleton _ _, ?_⟩
    intro event hevent later hlater id hid
    obtain rfl := List.mem_singleton.mp hlater
    apply hlent id (List.mem_flatMap.mpr ⟨event, hevent, hid⟩)

/-- What a move does to a pool is recorded. -/
theorem Recorded.happens (hr : Recorded h) (hp : Accounted start h p)
    (hstep : Happens p events p') :
  Recorded (h ++ events)
  := by
  have hmembers := hp.members
  cases hstep with
  | @reuses id failed rest s hidle hfails hpasses =>
    have hnodup : (failed ++ id :: rest).Nodup := by
      rw [← hidle]
      apply (List.nodup_append.mp hmembers.nodup).1
    have hmem : id ∈ p.idle ++ p.lent := by simp [hidle]
    apply hr.snoc
    · apply Event.Sound.reused
      intro hid
      apply (List.nodup_append.mp hnodup).2.2 id hid id List.mem_cons_self rfl
    · rintro gone hgone heq
      obtain rfl := Option.some.inj heq
      apply hmembers.not_mem_of_gone _ hgone hmem
  | makes hroom hfails =>
    apply hr.snoc
    · apply Event.Sound.made
      intro hid
      have hle := hmembers.le_made _ (List.mem_append_left _ hid)
      omega
    · rintro gone hgone heq
      obtain rfl := Option.some.inj heq
      have hle := hmembers.gone_le_made _ hgone
      omega
  | evicts hlent =>
    apply hr.snoc (.evicted _)
    intro id _ heq
    cases heq
  | returns hlent =>
    rw [List.append_nil]
    apply hr
  | works hscript hreading =>
    rw [List.append_nil]
    apply hr

/-- However a pool is used, its connections stay accounted for. -/
theorem Accounted.playAll (hp : Accounted start h p) (hr : Recorded h) {moves : List Move}
    (hmoves : p.AllowsAll moves) :
  Accounted start (h ++ p.history moves) (p.playAll moves) ∧ Recorded (h ++ p.history moves)
  := by
  induction moves generalizing h p with
  | nil =>
    rw [history, List.append_nil]
    exact ⟨hp, hr⟩
  | cons m rest ih =>
    obtain ⟨hm, hrest⟩ := hmoves
    have hstep := Pool.happens hp.ready hm
    have hall := ih (hp.happens hstep) (hr.happens hp hstep) hrest
    rw [List.append_assoc] at hall
    apply hall

/-! ## What users of a pool can rely on -/

/-- How a pool `p` lends a connection and becomes `p'`: it pings the connections that have been
idle for the longest time, and drops all of them but the one that it lends.  Apart from the pings
it makes a call only if it makes a connection. -/
structure Lends (p : Pool) (id : Nat) (c : Checkout) (p' : Pool) : Prop where
  sound : (Event.lent id c).Sound
  oldest : c.pings.map Prod.fst = p.idle.take c.pings.length
  idle : p'.idle = p.idle.drop c.pings.length
  lent : p'.lent = p.lent ++ [id]
  calls : ∃ calls, OpenEdge.PingsCall c.pings calls
    ∧ p'.session.script.calls
      = p.session.script.calls ++ calls ++ if c.connects then [.connect p.url] else []

/-- A connection is lent as its event says. -/
theorem Happens.lends {id : Nat} {c : Checkout} (hstep : Happens p [.lent id c] p')
    (hsound : (Event.lent id c).Sound) :
  Lends p id c p'
  := by
  cases hstep with
  | @reuses _ failed rest s hidle hfails hpasses =>
    obtain ⟨before, hbefore, hpings⟩ := hfails.pingsCall
    obtain ⟨last, hlast, hping⟩ := Session.pingsCall_ping id s
    rw [hpasses] at hping
    have hlength : (failed.map (·, false) ++ [(id, true)]).length = (failed ++ [id]).length := by
      simp
    have hsplit : p.idle = failed ++ [id] ++ rest := by simp [hidle]
    constructor
    case sound => apply hsound
    case oldest =>
      dsimp only
      rw [hlength, hsplit, List.take_left]
      simp [Function.comp_def]
    case idle =>
      dsimp only
      rw [hlength, hsplit, List.drop_left]
    case lent => rfl
    case calls =>
      use before ++ last, hpings.append hping
      change (Session.ping s).2.script.calls = p.session.script.calls ++ (before ++ last) ++ []
      rw [hlast, hbefore, List.append_nil, List.append_assoc]
  | @makes s hroom hfails =>
    obtain ⟨calls, hcalls, hpings⟩ := hfails.pingsCall
    constructor
    case sound => apply hsound
    case oldest => simp [Function.comp_def]
    case idle =>
      dsimp only
      rw [List.length_map, List.drop_length]
      rfl
    case lent => rfl
    case calls =>
      use calls, hpings
      change s.script.calls ++ [.connect p.url]
        = p.session.script.calls ++ calls ++ [.connect p.url]
      rw [hcalls]

/-- What is true of a pool after a history that began with a script. -/
structure Conserves (start : Script) (h : List Event) (p : Pool) : Prop where
  size : p.size = p.idle.length + p.lent.length
  limit : p.size ≤ p.limit
  available : p.available = p.idle.length
  /-- Of the connections that were made those are in the pool whose pings did not fail and that were
  not evicted. -/
  connects : p.session.script.connects = start.connects + p.size
    + (h.flatMap Event.failed).length + (h.flatMap Event.evictions).length
  infos : p.session.script.infos = start.infos
  sound : ∀ e ∈ h, e.Sound
  /-- A connection whose ping failed, or that was evicted, is not lent later. -/
  parted : h.Pairwise fun e later => ∀ id ∈ e.gone, later.lent? ≠ some id
  /-- A connection that is asked for is lent. -/
  gets : p.lent.length < p.limit → ∃ id, p.get.1.result = .ok (some id)
    ∧ Lends p id (checkout p.session p.idle) p.get.2

/-- However a pool is used, it conserves its connections. -/
theorem conserves_connections (limit : Nat) (url : String) {start : Script}
    (hstart : start.faults.connect = []) {moves : List Move}
    (hmoves : (new limit url start).AllowsAll moves) :
  Conserves start ((new limit url start).history moves) ((new limit url start).playAll moves)
  := by
  obtain ⟨hp, hr⟩ := (accounted_new limit url hstart).playAll recorded_nil hmoves
  rw [List.nil_append] at hp hr
  generalize (new limit url start).history moves = h at hp hr ⊢
  generalize (new limit url start).playAll moves = p at hp hr ⊢
  have hsize := hp.size
  rw [List.length_append] at hsize
  constructor
  case size => apply hsize
  case limit => apply hp.limit
  case available =>
    rw [available]
    omega
  case connects => rw [hp.balance, length_goneIn, ← Nat.add_assoc]
  case infos => apply hp.infos
  case sound => apply hr.sound
  case parted => apply hr.parted
  case gets =>
    intro hroom
    obtain ⟨id, hresult, hget⟩ := happens_get hp.ready hroom
    use id, hresult
    apply hget.lends
    apply (hr.happens hp hget).sound
    apply List.mem_append_right _ (List.mem_singleton_self _)

/-- The textile pool lends one connection at a time, and its first ping will fail. -/
def textile : Pool :=
  new 1 "openedge+odbc-async://erp-db:20931/textile"
    { outcomes := [.failure "Statement handle lost"] }

/-- A connection that fails its ping when it is asked for again, and an eviction of the next one. -/
def textileMoves : List Move :=
  [.get, .release 1, .get, .evict 2 (.ofCause (.stated "Socket closed"))]

/-- A connection that fails its ping is replaced in the same checkout, and the new one is evicted.
-/
theorem conserves_connections_textile :
  textile.AllowsAll textileMoves
    ∧ textile.history textileMoves
      = [.lent 1 ⟨[], true⟩, .lent 2 ⟨[(1, false)], true⟩, .evicted 2]
    ∧ Conserves textile.session.script (textile.history textileMoves)
      (textile.playAll textileMoves)
  := by
  have hallowed : textile.AllowsAll textileMoves :=
    ⟨Nat.zero_lt_one, List.mem_singleton_self 1, Nat.zero_lt_one, List.mem_singleton_self 2,
      trivial⟩
  use hallowed
  constructor
  · rfl
  · apply conserves_connections 1 "openedge+odbc-async://erp-db:20931/textile" rfl hallowed

/-- A connection is made after the idle one was pinged. -/
theorem get_pings_before_making :
  textile.AllowsAll [.get, .release 1, .get]
    ∧ (textile.playAll [.get, .release 1]).get.1.result = .ok (some 2)
    ∧ (textile.playAll [.get, .release 1]).get.2.session.script.calls
      = (textile.playAll [.get, .release 1]).session.script.calls ++ OpenEdge.pingCalls
        ++ [.connect textile.url]
  := by
  constructor
  · exact ⟨Nat.zero_lt_one, List.mem_singleton_self 1, Nat.zero_lt_one, trivial⟩
  · exact ⟨rfl, rfl⟩

end Pool

end SqlDialect
