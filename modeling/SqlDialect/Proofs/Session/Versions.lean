import Mathlib.Logic.Function.Basic
import SqlDialect.Proofs.Session.Footprint

/-!
# The version on record

A dialect may be shared by many connections.  Blocking, it keeps the version that it learned
first, whichever connection that came from, and a connection that cannot tell its version
changes nothing.  Otherwise no server is asked, and the version counts as unknown once it
was to be learned.
-/

namespace SqlDialect

/-- A dialect with the connections that share it. -/
structure Fleet where
  reading : Reading
  version : Option ServerVersion := none
  scripts : Nat → Script

/-- What a dialect does on a connection. -/
inductive Job
  | request (r : Request)
  /-- The version is asked for, and not recorded. -/
  | version

/-- The operation of a job, without its answer. -/
def Job.operation : Job → Operation Unit
  | request r => do
    let _ ← r.operation
    return ()
  | version => do
    let _ ← Session.serverVersion
    return ()

/-- What is made of the text that a server tells as its version, and what is logged. -/
inductive ServerVersion.Reads (text : String) : ServerVersion → List LogRecord → Prop
  | parsed {version : ServerVersion} (h : parse? text.toList = some version) : Reads text version []
  | unknown (h : parse? text.toList = none) :
    Reads text .unknown [⟨.warning, "Could not parse the OpenEdge server version `" ++ text
      ++ "`, recording " ++ ServerVersion.unknown.text⟩]

/-! ## Learning the version -/

namespace Session

/-- A version that was answered is read, with a record when it cannot be. -/
theorem versionReport_ok (text : String) :
  ∃ version log, versionReport (.ok text) = ⟨.ok version, log⟩
    ∧ ServerVersion.Reads text version log
  := by
  rw [versionReport]
  cases h : ServerVersion.parse? text.toList with
  | some version => exact ⟨version, [], rfl, .parsed h⟩
  | none => exact ⟨.unknown, _, rfl, .unknown h⟩

variable {s : Session}

/-- Over a blocking driver the server is asked for its version. -/
theorem serverVersion_eq (h : s.reading = .blocking) :
  serverVersion s = (versionReport (Script.info .version s.script).1,
    { s with script := s.script.record (.info .version) })
  := by
  rw [serverVersion_of_blocking h, Operation.exchange, info_version_eq]

/-- A failure to ask is reported, and no version is recorded. -/
theorem learnVersion_of_error {g : Failure} (h : s.reading = .blocking)
    (hinfo : (Script.info .version s.script).1 = .error g) :
  learnVersion s = (.fail (g.within .readingServerVersion),
    { s with script := s.script.record (.info .version) })
  := by
  have hserver := serverVersion_eq h
  rw [hinfo] at hserver
  apply Operation.bind_of_error hserver

/-- A version that is learned is recorded unless one was before. -/
theorem learnVersion_of_ok {text : String} (h : s.reading = .blocking)
    (hinfo : (Script.info .version s.script).1 = .ok text) :
  ∃ version log, ServerVersion.Reads text version log
    ∧ learnVersion s = (⟨.ok (), log⟩, { s with
      version := s.version.or (some version)
      script := s.script.record (.info .version) })
  := by
  obtain ⟨version, log, hreport, hreads⟩ := versionReport_ok text
  have hserver := serverVersion_eq h
  rw [hinfo, hreport] at hserver
  use version, log, hreads
  apply (Operation.bind_of_ok hserver).trans
  change (Report.mk (.ok ()) (log ++ []), _) = _
  rw [List.append_nil]
  rfl

end Session

namespace Job

/-- Only learning the version records it. -/
theorem version_operation {j : Job} (h : j ≠ request .learnVersion) (s : Session) :
  (j.operation s).2.version = s.version
  := by
  cases j with
  | request r =>
    rw [operation, Operation.replaced_eq]
    apply (Request.adds_of_ne _ s).version
    rintro rfl
    apply h rfl
  | version =>
    rw [operation, Operation.replaced_eq]
    apply (Session.adds_serverVersion s).version

/-- The job to learn the version is done by learning it. -/
theorem operation_learnVersion (s : Session) :
  (request .learnVersion).operation s = Session.learnVersion s
  := by
  have hrequest : Request.learnVersion.operation s = _ :=
    Operation.replaced_eq Session.learnVersion Answer.done s
  apply (Operation.replaced_eq Request.learnVersion.operation () s).trans
  rw [hrequest]
  rcases Session.learnVersion s with ⟨⟨_ | _, log⟩, after⟩ <;> rfl

/-- Unless the connection is blocking no job asks the server about itself. -/
theorem infos_operation {s : Session} (h : s.reading = .streaming) (j : Job) :
  (j.operation s).2.script.infos = s.script.infos
  := by
  by_cases hj : j = request .learnVersion
  · rw [hj, operation_learnVersion, Session.learnVersion_of_streaming h]
  · cases j with
    | request r =>
      have hr : r ≠ .learnVersion := by
        rintro rfl
        apply hj rfl
      rw [operation, Operation.replaced_eq]
      apply (Request.adds_of_ne hr s).script.countP_eq
      intro call hcall
      apply hcall
    | version => rw [operation, Operation.replaced_eq, Session.serverVersion_of_streaming h]

end Job

/-! ## Runs -/

namespace Fleet

/-- The session on a connection. -/
def session (f : Fleet) (connection : Nat) : Session :=
  { reading := f.reading, version := f.version, script := f.scripts connection }

/-- The fleet after the session on a connection became another one. -/
def replace (f : Fleet) (connection : Nat) (s : Session) : Fleet :=
  { f with version := s.version, scripts := Function.update f.scripts connection s.script }

/-- A job is done on a connection. -/
def perform (f : Fleet) (connection : Nat) (j : Job) : Report Unit × Fleet :=
  let (report, s) := j.operation (f.session connection)
  (report, f.replace connection s)

/-- The fleet after jobs, one after the other, each on a connection. -/
def performAll (f : Fleet) : List (Nat × Job) → Fleet
  | [] => f
  | (connection, j) :: rest => (f.perform connection j).2.performAll rest

/-- The version is learned from a connection. -/
def learn (f : Fleet) (connection : Nat) : Report Unit × Fleet :=
  f.perform connection (.request .learnVersion)

/-- Jobs may be done in two batches. -/
theorem performAll_append (f : Fleet) (jobs later : List (Nat × Job)) :
  f.performAll (jobs ++ later) = (f.performAll jobs).performAll later
  := by
  induction jobs generalizing f with
  | nil => rfl
  | cons job rest ih => apply ih

variable {f : Fleet} {connection : Nat}

/-- Jobs do not change how results are read. -/
theorem reading_performAll (f : Fleet) (jobs : List (Nat × Job)) :
  (f.performAll jobs).reading = f.reading
  := by
  induction jobs generalizing f with
  | nil => rfl
  | cons job rest ih => apply ih

/-- Only learning the version changes the version. -/
theorem version_perform {j : Job} (h : j ≠ .request .learnVersion) :
  (f.perform connection j).2.version = f.version
  := Job.version_operation h (f.session connection)

/-- To learn the version over a connection is to learn it in its session. -/
theorem learn_eq (f : Fleet) (connection : Nat) :
  f.learn connection = ((Session.learnVersion (f.session connection)).1,
    f.replace connection (Session.learnVersion (f.session connection)).2)
  := by
  rw [learn, perform, Job.operation_learnVersion]

/-- The fleet after a connection was asked for the version of its server. -/
def asked (f : Fleet) (connection : Nat) : Fleet :=
  { f with scripts :=
    Function.update f.scripts connection ((f.scripts connection).record (.info .version)) }

/-- Learning the version fails when the connection cannot tell it, and changes nothing then. -/
theorem learn_of_error {g : Failure} (h : f.reading = .blocking)
    (hinfo : (Script.info .version (f.scripts connection)).1 = .error g) :
  f.learn connection = (.fail (g.within .readingServerVersion), f.asked connection)
  := by
  rw [learn_eq, Session.learnVersion_of_error h hinfo]
  rfl

/-- A version that is learned over a connection is recorded for all of them unless one was before.
-/
theorem learn_of_ok {text : String} (h : f.reading = .blocking)
    (hinfo : (Script.info .version (f.scripts connection)).1 = .ok text) :
  ∃ version log, ServerVersion.Reads text version log
    ∧ f.learn connection
      = (⟨.ok (), log⟩, { f.asked connection with version := f.version.or (some version) })
  := by
  have hsession : (f.session connection).reading = .blocking := h
  obtain ⟨version, log, hreads, hlearn⟩ := Session.learnVersion_of_ok hsession hinfo
  use version, log, hreads
  rw [learn_eq, hlearn]
  rfl

/-- A dialect that does not block learns the unknown version unless one is recorded. -/
theorem learn_of_streaming (h : f.reading = .streaming) :
  (f.learn connection).1 = .ok ()
    ∧ (f.learn connection).2.version = f.version.or (some .unknown)
  := by
  rw [learn_eq, Session.learnVersion_of_streaming h]
  exact ⟨rfl, rfl⟩

/-! ### The version of a blocking dialect -/

/-- A version on record is not replaced. -/
theorem version_perform_of_some {version : ServerVersion} (h : f.reading = .blocking)
    (hversion : f.version = some version) (j : Job) :
  (f.perform connection j).2.version = some version
  := by
  by_cases hj : j = .request .learnVersion
  · rw [hj]
    change (f.learn connection).2.version = some version
    cases hinfo : (Script.info .version (f.scripts connection)).1 with
    | error g =>
      rw [learn_of_error h hinfo]
      apply hversion
    | ok text =>
      obtain ⟨later, log, -, hlearn⟩ := learn_of_ok h hinfo
      rw [hlearn, hversion]
      rfl
  · rw [version_perform hj, hversion]

/-- A version that is recorded stays as it is. -/
theorem version_performAll_of_some {version : ServerVersion} (h : f.reading = .blocking)
    (hversion : f.version = some version) (jobs : List (Nat × Job)) :
  (f.performAll jobs).version = some version
  := by
  induction jobs generalizing f with
  | nil => apply hversion
  | cons job rest ih =>
    have hreading : (f.perform job.1 job.2).2.reading = .blocking := h
    apply ih hreading
    apply version_perform_of_some h hversion

/-- Nowhere in the course of the jobs is the version learned. -/
def Unlearned (f : Fleet) (jobs : List (Nat × Job)) : Prop :=
  ∀ before connection later, jobs = before ++ (connection, .request .learnVersion) :: later →
    ((f.performAll before).learn connection).1.result ≠ .ok ()

/-- As long as the version is not learned none is recorded. -/
theorem Unlearned.version_eq {jobs : List (Nat × Job)} (h : f.reading = .blocking)
    (hjobs : f.Unlearned jobs) :
  (f.performAll jobs).version = f.version
  := by
  induction jobs generalizing f with
  | nil => rfl
  | cons job rest ih =>
    obtain ⟨connection, j⟩ := job
    have hrest : (f.perform connection j).2.Unlearned rest := by
      intro before other later hsplit
      apply hjobs ((connection, j) :: before) other later
      rw [hsplit, List.cons_append]
    have hreading : (f.perform connection j).2.reading = .blocking := h
    apply (ih hreading hrest).trans
    by_cases hj : j = .request .learnVersion
    · subst hj
      have hfails := hjobs [] connection rest rfl
      change (f.learn connection).1.result ≠ .ok () at hfails
      change (f.learn connection).2.version = f.version
      cases hinfo : (Script.info .version (f.scripts connection)).1 with
      | error g =>
        rw [learn_of_error h hinfo]
        rfl
      | ok text =>
        obtain ⟨version, log, -, hlearn⟩ := learn_of_ok h hinfo
        rw [hlearn] at hfails
        cases hfails rfl
    · apply version_perform hj

/-- What is true of a blocking dialect that has no version on record yet. -/
structure RecordsOnce (f : Fleet) : Prop where
  /-- No version is recorded before one was learned. -/
  before : ∀ jobs, f.Unlearned jobs → (f.performAll jobs).version = none
  /-- The version that is learned first is the one on record from then on. -/
  since : ∀ jobs connection, f.Unlearned jobs →
    ((f.performAll jobs).learn connection).1.result = .ok () →
    ∃ text version log, (Script.info .version ((f.performAll jobs).scripts connection)).1 = .ok text
      ∧ ServerVersion.Reads text version log
      ∧ ((f.performAll jobs).learn connection).1.log = log
      ∧ ∀ later, (f.performAll (jobs ++ (connection, .request .learnVersion) :: later)).version
        = some version
  /-- Learning that fails changes nothing. -/
  failing : ∀ jobs connection g, ((f.performAll jobs).learn connection).1.result = .error g →
    ∃ cause, (Script.info .version ((f.performAll jobs).scripts connection)).1 = .error cause
      ∧ g = cause.within .readingServerVersion
      ∧ ((f.performAll jobs).learn connection).2 = (f.performAll jobs).asked connection

/-- A blocking dialect records the first version that it learns. -/
theorem recordsOnce (h : f.reading = .blocking) (hversion : f.version = none) :
  f.RecordsOnce
  := by
  constructor
  case before =>
    intro jobs hjobs
    rw [hjobs.version_eq h, hversion]
  case since =>
    intro jobs connection hjobs hok
    have hreading := (f.reading_performAll jobs).trans h
    cases hinfo : (Script.info .version ((f.performAll jobs).scripts connection)).1 with
    | error g =>
      rw [learn_of_error hreading hinfo] at hok
      cases hok
    | ok text =>
      obtain ⟨version, log, hreads, hlearn⟩ := learn_of_ok hreading hinfo
      use text, version, log, rfl, hreads
      constructor
      · rw [hlearn]
      · intro later
        have hlearned : ((f.performAll jobs).learn connection).2.version = some version := by
          rw [hlearn, hjobs.version_eq h, hversion]
          rfl
        rw [performAll_append]
        apply version_performAll_of_some _ hlearned later
        apply hreading
  case failing =>
    intro jobs connection g hfails
    have hreading := (f.reading_performAll jobs).trans h
    cases hinfo : (Script.info .version ((f.performAll jobs).scripts connection)).1 with
    | error cause =>
      rw [learn_of_error hreading hinfo] at hfails ⊢
      use cause, rfl, (Except.error.inj hfails).symm
    | ok text =>
      obtain ⟨version, log, -, hlearn⟩ := learn_of_ok hreading hinfo
      rw [hlearn] at hfails
      cases hfails

/-! ### The version of a dialect that asks no server -/

/-- What is true of a dialect that does not block and has no version on record yet. -/
structure NeverAsks (f : Fleet) : Prop where
  succeeds : ∀ jobs connection, ((f.performAll jobs).learn connection).1 = .ok ()
  before : ∀ jobs, (∀ connection, (connection, .request .learnVersion) ∉ jobs) →
    (f.performAll jobs).version = none
  since : ∀ jobs connection, (connection, .request .learnVersion) ∈ jobs →
    (f.performAll jobs).version = some .unknown
  infos : ∀ jobs connection,
    ((f.performAll jobs).scripts connection).infos = (f.scripts connection).infos

/-- A dialect that does not block asks no server for its version. -/
theorem infos_performAll (h : f.reading = .streaming) (jobs : List (Nat × Job)) :
  ((f.performAll jobs).scripts connection).infos = (f.scripts connection).infos
  := by
  induction jobs generalizing f with
  | nil => rfl
  | cons job rest ih =>
    obtain ⟨other, j⟩ := job
    have hreading : (f.perform other j).2.reading = .streaming := h
    apply (ih hreading).trans
    change (Function.update f.scripts other _ connection).infos = _
    by_cases hother : connection = other
    · subst hother
      rw [Function.update_self]
      apply Job.infos_operation h
    · rw [Function.update_of_ne hother]

/-- The version stays as it is without a job to learn it. -/
theorem version_performAll_of_not_mem {jobs : List (Nat × Job)}
    (hjobs : ∀ connection, (connection, .request .learnVersion) ∉ jobs) :
  (f.performAll jobs).version = f.version
  := by
  induction jobs generalizing f with
  | nil => rfl
  | cons job rest ih =>
    obtain ⟨connection, j⟩ := job
    have hj : j ≠ .request .learnVersion := by
      rintro rfl
      apply hjobs connection List.mem_cons_self
    apply (ih fun other hother => hjobs other (List.mem_cons_of_mem _ hother)).trans
    apply version_perform hj

/-- Once it was to be learned, the version is on record as unknown. -/
theorem version_performAll_of_streaming (h : f.reading = .streaming)
    (hversion : f.version = none ∨ f.version = some .unknown) {jobs : List (Nat × Job)}
    (hlearned : f.version = some .unknown
      ∨ ∃ connection, (connection, .request .learnVersion) ∈ jobs) :
  (f.performAll jobs).version = some .unknown
  := by
  induction jobs generalizing f with
  | nil =>
    obtain hlearned | ⟨connection, hjob⟩ := hlearned
    · apply hlearned
    · cases hjob
  | cons job rest ih =>
    obtain ⟨connection, j⟩ := job
    have hreading : (f.perform connection j).2.reading = .streaming := h
    by_cases hj : j = .request .learnVersion
    · subst hj
      have hunknown : (f.learn connection).2.version = some .unknown := by
        rw [(learn_of_streaming h).2]
        obtain hversion | hversion := hversion
        · rw [hversion]
          rfl
        · rw [hversion]
          rfl
      apply ih hreading (.inr hunknown) (.inl hunknown)
    · have hsame : (f.perform connection j).2.version = f.version := version_perform hj
      apply ih hreading
      · rw [hsame]
        apply hversion
      · rw [hsame]
        obtain hlearned | ⟨other, hother⟩ := hlearned
        · left
          apply hlearned
        · right
          use other
          apply List.mem_of_ne_of_mem _ hother
          intro heq
          apply hj
          injection heq with _ heq
          apply heq.symm

/-- A dialect that does not block learns the unknown version and asks no server. -/
theorem neverAsks (h : f.reading = .streaming) (hversion : f.version = none) :
  f.NeverAsks
  := by
  constructor
  case succeeds =>
    intro jobs connection
    apply (learn_of_streaming ((f.reading_performAll jobs).trans h)).1
  case before =>
    intro jobs hjobs
    rw [version_performAll_of_not_mem hjobs, hversion]
  case since =>
    intro jobs connection hjob
    apply version_performAll_of_streaming h (.inl hversion) (.inr ⟨connection, hjob⟩)
  case infos =>
    intro jobs connection
    apply infos_performAll h

end Fleet

end SqlDialect
