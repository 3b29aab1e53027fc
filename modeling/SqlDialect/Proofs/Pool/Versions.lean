import SqlDialect.Proofs.Pool.Checkouts
import SqlDialect.Proofs.Session.Versions

/-!
# The version on record in a pool

The connections of a pool share a dialect that asks no server for its version.  The version
counts as unknown as soon as a connection was made, and learning it always succeeds, so
only a failure to connect keeps a connection from being made.
-/

namespace SqlDialect

namespace Pool

variable {p p' p'' : Pool} {learns learns' : Prop}

/-- One pool after another, in between of which the version was to be learned or not, apart from new
connections.  No server was asked about itself.  The version is the same, or counts as unknown if
there was none and a connection was made or it was to be learned. -/
structure Follows (learns : Prop) (p p' : Pool) : Prop where
  reading : p'.session.reading = p.session.reading
  infos : p'.session.script.infos = p.session.script.infos
  version : p'.made = p.made ∧ ¬ learns ∧ p'.session.version = p.session.version
    ∨ p.made ≤ p'.made ∧ (p.made < p'.made ∨ learns)
      ∧ p'.session.version = p.session.version.or (some .unknown)

namespace Follows

theorem of_grown (hmade : p'.made = p.made)
    (hgrown : p.session.Grown (·.isInfo = false) p'.session) :
  Follows False p p'
  := by
  constructor
  · apply hgrown.reading
  · apply hgrown.script.countP_eq fun _ => id
  · exact .inl ⟨hmade, id, hgrown.version⟩

theorem of_iff (h : Follows learns p p') (hlearns : learns ↔ learns') :
  Follows learns' p p'
  := by
  rw [← propext hlearns]
  apply h

theorem of_session_eq (hmade : p'.made = p.made) (hsession : p'.session = p.session) :
  Follows False p p'
  := by
  apply of_grown hmade
  rw [hsession]
  apply Session.Grown.refl

theorem trans (h : Follows learns p p') (h' : Follows learns' p' p'') :
  Follows (learns ∨ learns') p p''
  := by
  constructor
  · rw [h'.reading, h.reading]
  · rw [h'.infos, h.infos]
  · have hagain : ∀ v : Option ServerVersion,
        (v.or (some .unknown)).or (some .unknown) = v.or (some .unknown) := by
      intro v
      cases v <;> rfl
    obtain ⟨hmade, hno, hversion⟩ | ⟨hmade, hlearns, hversion⟩ := h.version
    · obtain ⟨hmade', hno', hversion'⟩ | ⟨hmade', hlearns', hversion'⟩ := h'.version
      · exact .inl ⟨hmade'.trans hmade, not_or.mpr ⟨hno, hno'⟩, hversion'.trans hversion⟩
      · rw [hmade] at hmade' hlearns'
        rw [hversion] at hversion'
        exact .inr ⟨hmade', hlearns'.imp id .inr, hversion'⟩
    · obtain ⟨hmade', hno', hversion'⟩ | ⟨hmade', hlearns', hversion'⟩ := h'.version
      · rw [← hmade'] at hmade hlearns
        exact .inr ⟨hmade, hlearns.imp id .inl, hversion'.trans hversion⟩
      · rw [hversion, hagain] at hversion'
        refine .inr ⟨Nat.le_trans hmade hmade', ?_, hversion'⟩
        apply hlearns.imp _ .inl
        intro hlt
        apply Nat.lt_of_lt_of_le hlt hmade'

end Follows

/-- Making a connection fails only when connecting does. -/
theorem connect_follows (h : p.session.reading = .streaming) :
  Follows False p p.connect.2
    ∧ p.connect.1.result = (Session.connect p.url p.session).1.result.map fun _ => p.made + 1
  := by
  have hgrown : p.session.Grown (·.isInfo = false) (Session.connect p.url p.session).2 := by
    apply (Session.adds_connect p.url p.session).mono
    rintro call rfl
    rfl
  rw [Pool.connect, Operation.bind]
  rcases hconnect : Session.connect p.url p.session with ⟨⟨g | _, log⟩, s⟩
  · rw [hconnect] at hgrown
    exact ⟨.of_grown rfl hgrown, rfl⟩
  · rw [hconnect] at hgrown
    dsimp only
    rw [Session.learnVersion_of_streaming (hgrown.reading.trans h)]
    constructor
    · constructor
      · apply hgrown.reading
      · apply hgrown.script.countP_eq fun _ => id
      · right
        refine ⟨Nat.le_succ _, .inl (Nat.lt_succ_self _), ?_⟩
        change s.version.or _ = _
        rw [hgrown.version]
    · rfl

theorem get_follows (h : p.session.reading = .streaming) :
  Follows False p p.get.2
  := by
  by_cases hroom : p.lent.length < p.limit
  · obtain ⟨-, hafter⟩ := get_of_room hroom
    have hlending := p.lending p.idle
    rw [hafter]
    generalize p.idle = idle at hlending ⊢
    generalize checkout p.session idle = c, (p.lend idle).1.result = result,
      (p.lend idle).2 = after at hlending ⊢
    cases hlending with
    | @reuses failed s id rest hfails hpasses =>
      apply Follows.of_grown
      · rfl
      · apply (hfails.grown.trans (Session.adds_ping s)).mono
        intro call
        apply Call.OnCursor.isInfo_eq_false
    | @makes _ s hfails =>
      have hgrown := hfails.grown.mono fun _ => Call.OnCursor.isInfo_eq_false
      have hdropped : Follows False p { p.dropping idle s with idle := [] } :=
        .of_grown rfl hgrown
      have hconnected := (connect_follows (hdropped.reading.trans h)).1
      apply (hdropped.trans hconnected).of_iff (or_self_iff)
  · rw [get, if_pos (Nat.not_lt.mp hroom)]
    apply Follows.of_session_eq rfl rfl

/-- The move is to learn the version. -/
def Move.Learns : Move → Prop
  | .ask _ r => r = .learnVersion
  | _ => False

theorem play_follows (h : p.session.reading = .streaming) (m : Move) :
  Follows m.Learns p (p.play m)
  := by
  cases m with
  | get => apply get_follows h
  | release id => exact .of_session_eq rfl rfl
  | evict id f =>
    rw [play, evict]
    split
    · exact .of_session_eq rfl rfl
    · exact .of_session_eq rfl rfl
  | ask id r =>
    by_cases hr : r = .learnVersion
    · subst hr
      rw [play, Request.learnVersion_of_streaming h]
      exact ⟨rfl, rfl, .inr ⟨Nat.le_refl _, .inr rfl, rfl⟩⟩
    · have hgrown := Request.adds_of_ne hr p.session
      have hfollows : Follows False p (p.play (.ask id r)) := .of_grown rfl hgrown
      apply hfollows.of_iff
      simp [Move.Learns, hr]

theorem playAll_follows (h : p.session.reading = .streaming) (moves : List Move) :
  Follows (∃ m ∈ moves, m.Learns) p (p.playAll moves)
  := by
  induction moves generalizing p with
  | nil =>
    have hfollows : Follows False p p := .of_session_eq rfl rfl
    apply hfollows.of_iff
    simp
  | cons m rest ih =>
    have hfirst := play_follows h m
    apply (hfirst.trans (ih (hfirst.reading.trans h))).of_iff
    simp

/-- What is true of a pool that was used. -/
structure NeverAsks (start : Script) (moves : List Move) (p : Pool) : Prop where
  infos : p.session.script.infos = start.infos
  /-- Learning the version succeeds. -/
  succeeds : (Session.learnVersion p.session).1 = .ok ()
  /-- A connection is made, with the version learned, unless connecting fails. -/
  makes : p.connect.1.result
    = (Session.connect p.url p.session).1.result.map fun _ => p.made + 1
  before : p.made = 0 → (∀ m ∈ moves, ¬ m.Learns) → p.session.version = none
  since : (0 < p.made ∨ ∃ m ∈ moves, m.Learns) → p.session.version = some .unknown

theorem neverAsks (limit : Nat) (url : String) (start : Script) (moves : List Move) :
  NeverAsks start moves ((new limit url start).playAll moves)
  := by
  have hreading : (new limit url start).session.reading = .streaming := rfl
  have hfollows := playAll_follows hreading moves
  have hstreaming := hfollows.reading.trans hreading
  generalize (new limit url start).playAll moves = p at hfollows hstreaming ⊢
  have hversion := hfollows.version
  constructor
  case infos => apply hfollows.infos
  case succeeds => rw [Session.learnVersion_of_streaming hstreaming]
  case makes => apply (connect_follows hstreaming).2
  case before =>
    intro hmade hmoves
    obtain ⟨-, -, hnone⟩ | ⟨-, hnew | ⟨m, hm, hlearns⟩, -⟩ := hversion
    · apply hnone
    · rw [hmade] at hnew
      cases hnew
    · cases hmoves m hm hlearns
  case since =>
    rintro hlearns
    obtain ⟨hmade, hno, -⟩ | ⟨-, -, hunknown⟩ := hversion
    · obtain hnew | hmoves := hlearns
      · rw [hmade] at hnew
        cases hnew
      · cases hno hmoves
    · apply hunknown

end Pool

/-- The version on record is written once.  Blocking it is the one that was learned first, and
otherwise no server is asked and it counts as unknown, with or without a pool. -/
theorem version_recorded_once :
  (∀ f : Fleet, f.reading = .blocking → f.version = none → f.RecordsOnce)
    ∧ (∀ f : Fleet, f.reading = .streaming → f.version = none → f.NeverAsks)
    ∧ ∀ limit url start moves,
      Pool.NeverAsks start moves ((Pool.new limit url start).playAll moves)
  := by
  constructor
  · intro f
    apply Fleet.recordsOnce
  constructor
  · intro f
    apply Fleet.neverAsks
  · intro limit url start moves
    apply Pool.neverAsks

/-- Three connections, the first to a server that does not tell its version. -/
def mills (reading : Reading) : Fleet where
  reading := reading
  scripts
    | 0 => {}
    | 1 => { version := some "OpenEdge Release 11.7.4" }
    | _ => { version := some "12.8" }

theorem version_recorded_once_mills :
  ((mills .blocking).performAll
      [(0, .request .learnVersion), (1, .request .learnVersion),
        (2, .request .learnVersion)]).version = some ⟨11, 7, 4⟩
    ∧ (mills .blocking).RecordsOnce ∧ (mills .streaming).NeverAsks
  := by
  obtain ⟨hblocking, hstreaming, -⟩ := version_recorded_once
  constructor
  · decide +kernel
  · exact ⟨hblocking _ rfl rfl, hstreaming _ rfl rfl⟩

end SqlDialect
