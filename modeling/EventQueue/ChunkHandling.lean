import EventQueue.ChunkSurvives

/-! What the handler of an event does with the entries of a chunk: payloads, clusters, and for each
cluster an error or a tuple of statuses. Everything it asks for an entry is a list of statuses. -/
namespace EventQueue.Chunk
open Js (Value)

/-- How the handler ends for a cluster: it throws, or it returns a status for some entries. -/
inductive Reaction
  | thrown (error : Value)
  | returned (reports : List (String × Value))

def statusTuple (reports : List (String × Value)) : Value :=
  .arr (reports.map (fun report => .arr [.str report.1,report.2]))

def Reaction.outcome : Reaction → Outcome
  | .thrown error => .thrown error
  | .returned reports => .returned (statusTuple reports)

/-- What the handler of the event does with the entries of a chunk. -/
structure Handling where
  payloads : String → Payload
  clusters : List (String × List String)
  reactions : String → Reaction

/-- The status a report asks for: error if it is malformed. -/
def wantedStatus (env : Environment) (value : Value) : List Nat :=
  match normalizeEntry value with
  | none => []
  | some data => if data.malformed env then [EventProcessingStatus.Error] else data.statusNumber.toList

def payloadStatus : Payload → List Nat
  | .null => [EventProcessingStatus.Done]
  | .undefined => [EventProcessingStatus.Error]
  | .thrown _ => [EventProcessingStatus.Error]
  | .value => []

def Reaction.wanted (env : Environment) (queueEntries : List String) (id : String) : Reaction → List Nat
  | .thrown _ => if id ∈ queueEntries then [EventProcessingStatus.Error] else []
  | .returned reports => reports.flatMap (fun report => if report.1 = id then wantedStatus env report.2 else [])

namespace Handling

def outcomes (handling : Handling) (key : String) : Outcome := (handling.reactions key).outcome

def wanted (env : Environment) (handling : Handling) (id : String) : List Nat :=
  payloadStatus (handling.payloads id) ++
    handling.clusters.flatMap (fun cluster => (handling.reactions cluster.1).wanted env cluster.2 id)

def withPayload (handling : Handling) (openEvents : List String) : List String :=
  openEvents.filter (fun id => (preprocessReport handling.payloads id).isNone)

/-- The clusters group entries with payload, and every report has one of the four statuses. -/
structure Fits (handling : Handling) (openEvents : List String) : Prop where
  clusters : validClusters (handling.withPayload openEvents) handling.clusters = true
  statuses : ∀ cluster ∈ handling.clusters, ∀ reports, handling.reactions cluster.1 = .returned reports →
    ∀ report ∈ reports, (reportedStatus report.2).isSome = true

/-- Everything that reaches a status map can be written. Thrown errors have a text; so do the errors of a
returned tuple, whose dates are valid, or else `JSON.stringify` refuses the tuple and all it reports
on is in error anyway. -/
structure Contained (env : Environment) (handling : Handling) (openEvents : List String) : Prop where
  payloads : ∀ id ∈ openEvents, ∀ error, handling.payloads id = .thrown error →
    (thrownData error).persistable env = true
  thrown : ∀ cluster ∈ handling.clusters, ∀ error, handling.reactions cluster.1 = .thrown error →
    (thrownData error).persistable env = true
  returned : ∀ cluster ∈ handling.clusters, ∀ reports, handling.reactions cluster.1 = .returned reports →
    (env.stringify (statusTuple reports)).isSome = true →
      ∀ report ∈ reports, ∀ data, normalizeEntry report.2 = some data → data.persistable env = true
  refused : ∀ cluster ∈ handling.clusters, ∀ reports, handling.reactions cluster.1 = .returned reports →
    env.stringify (statusTuple reports) = none →
      (∀ report ∈ reports, report.1 ∈ cluster.2) ∧
        ∀ id ∈ cluster.2, ∀ status ∈ handling.wanted env id, status = EventProcessingStatus.Error

end Handling

/-- The language turns strings into themselves as keys, and its own errors have a text. -/
structure Standard (env : Environment) : Prop where
  propertyKey : ∀ text, env.propertyKey (.str text) = some text
  typeError : (thrownData env.typeError).persistable env = true

def Follows (handling : Handling) (chunk : Chunk) (entry : Nat × Action) : Prop :=
  Prompted handling.payloads handling.clusters handling.outcomes chunk entry.2

/-- The status is one the handler asks for, if it asks for any. -/
def Meant (env : Environment) (handling : Handling) (openEvents : List String) (id : String) (status : Nat) : Prop :=
  id ∈ openEvents → handling.wanted env id ≠ [] → status ∈ handling.wanted env id

variable {env : Environment} {handling : Handling} {openEvents : List String}

/-- The reports `setEventStatus` reads from a returned tuple. -/
def tupleReports (reports : List (String × Value)) : List Report :=
  reports.map (fun report => ⟨report.1,report.2,.undefined⟩)

theorem reportsOf_statusTuple (standard : Standard env) (reports : List (String × Value)) :
    reportsOf env (statusTuple reports) = (tupleReports reports,true) := by
  have pairs : tuples env (statusTuple reports) = (reports.map (fun report => (Value.str report.1,report.2)),true) := by
    have each : (reports.map (fun report => Value.arr [.str report.1,report.2])).map destructure =
        reports.map (fun report => some (Value.str report.1,report.2)) := by
      simp [destructure]
    simp only [statusTuple,tuples,each]
    refine Prod.ext ?_ ?_
    · induction reports with
      | nil => rfl
      | cons report rest ih => simpa using ih (by simp [destructure])
    · simp
  have keys : keyed env (reports.map (fun report => (Value.str report.1,report.2))) = (tupleReports reports,true) := by
    clear pairs
    induction reports with
    | nil => rfl
    | cons report rest ih => simp [keyed,standard.propertyKey,ih,tupleReports]
  simp [reportsOf,pairs,keys]

theorem setEventStatus_accepted (standard : Standard env) {statusMap : Dict Value} (queueEntries : List String)
    {reports : List (String × Value)} (accepted : (env.stringify (statusTuple reports)).isSome = true)
    (ok : (addReports env statusMap (tupleReports reports)).ok = true) :
    setEventStatus env statusMap queueEntries (statusTuple reports) =
      addReports env statusMap (tupleReports reports) := by
  have truthy : (statusTuple reports).truthy = true := rfl
  have strung : (env.stringify (statusTuple reports)).isNone = false := by simp [Option.isNone_eq_false_iff,accepted]
  simp [setEventStatus,strung,truthy,reportsOf_statusTuple standard,ok]

theorem setEventStatus_refused {statusMap : Dict Value} (queueEntries : List String) {statusTuple : Value}
    (refused : env.stringify statusTuple = none) :
    setEventStatus env statusMap queueEntries statusTuple = ⟨statusMap,[],false⟩ := by
  simp [setEventStatus,refused]

def Mentions (env : Environment) (handling : Handling) (cluster : Cluster) (id : String) : Prop :=
  (handling.reactions cluster.key).wanted env cluster.queueEntries id ≠ []

theorem mentions_thrown {cluster : Cluster} {error : Value} (reaction : handling.reactions cluster.key = .thrown error)
    {id : String} (mentioned : Mentions env handling cluster id) : id ∈ cluster.queueEntries := by
  by_contra foreign
  simp [Mentions,reaction,Reaction.wanted,foreign] at mentioned

theorem mentions_returned {cluster : Cluster} {reports : List (String × Value)}
    (reaction : handling.reactions cluster.key = .returned reports) {id : String}
    (mentioned : Mentions env handling cluster id) : ∃ report ∈ reports, report.1 = id := by
  by_contra absent
  push Not at absent
  apply mentioned
  simp only [reaction,Reaction.wanted,List.flatMap_eq_nil_iff]
  intro report member
  rw [if_neg (absent report member)]

theorem mem_wanted {cluster : String × List String} (listed : cluster ∈ handling.clusters) {id : String} {status : Nat}
    (asked : status ∈ (handling.reactions cluster.1).wanted env cluster.2 id) : status ∈ handling.wanted env id :=
  List.mem_append_right _ (List.mem_flatMap.mpr ⟨cluster,listed,asked⟩)

theorem sound_returned (fits : handling.Fits openEvents) (contained : handling.Contained env openEvents)
    {cluster : String × List String} (listed : cluster ∈ handling.clusters) {reports : List (String × Value)}
    (reaction : handling.reactions cluster.1 = .returned reports)
    (accepted : (env.stringify (statusTuple reports)).isSome = true) :
    SoundReports env (Meant env handling openEvents)
      (tupleReports reports) := by
  intro report member
  obtain ⟨given,inside,rfl⟩ := List.mem_map.mp member
  obtain ⟨status,numbered⟩ := Option.isSome_iff_exists.mp (fits.statuses cluster listed reports reaction given inside)
  obtain ⟨data,normal,numbered⟩ := Option.bind_eq_some_iff.mp numbered
  have persistable := contained.returned cluster listed reports reaction accepted given inside data normal
  have sound : data.malformed env = false := by
    simp only [UpdateData.persistable,Bool.and_eq_true,Bool.not_eq_true'] at persistable
    exact persistable.1
  refine ⟨status,persists_reported normal numbered persistable,fun _ _ => mem_wanted listed ?_⟩
  simp only [reaction,Reaction.wanted,List.mem_flatMap]
  exact ⟨given,inside,by simp [wantedStatus,normal,sound,numbered]⟩

theorem sound_errors {ids : List String} {error : Value} (persistable : (thrownData error).persistable env = true)
    (meant : ∀ id ∈ ids, Meant env handling openEvents id EventProcessingStatus.Error) :
    SoundReports env (Meant env handling openEvents) (errorReports ids error) := by
  intro report member
  obtain ⟨id,listed,rfl⟩ := List.mem_map.mp member
  exact ⟨_,persists_thrown persistable,meant id listed⟩

theorem sound_errorStatusMap {ids : List String} {error : Value}
    (persistable : (thrownData error).persistable env = true)
    (meant : ∀ id ∈ ids, Meant env handling openEvents id EventProcessingStatus.Error) :
    SoundMap env (Meant env handling openEvents) (errorStatusMap ids error) := by
  intro id value found
  rw [errorStatusMap,Dict.get?_setAll] at found
  split at found
  · rename_i listed
    cases found
    exact ⟨_,persists_error persistable,meant id listed⟩
  · cases found

theorem sound_preprocess (contained : handling.Contained env openEvents) :
    SoundReports env (Meant env handling openEvents) (openEvents.filterMap (preprocessReport handling.payloads)) := by
  intro report member
  obtain ⟨id,listed,given⟩ := List.mem_filterMap.mp member
  have wanted : ∀ status, status ∈ payloadStatus (handling.payloads id) → Meant env handling openEvents id status :=
    fun status asked _ _ => List.mem_append_left _ asked
  unfold preprocessReport at given
  split at given
  · rename_i payload
    cases given
    exact ⟨_,persists_status done_allowed,wanted _ (by simp [payload,payloadStatus])⟩
  · rename_i payload
    cases given
    exact ⟨_,persists_status error_allowed,wanted _ (by simp [payload,payloadStatus])⟩
  · rename_i error payload
    cases given
    exact ⟨_,persists_thrown (contained.payloads id listed error payload),wanted _ (by simp [payload,payloadStatus])⟩
  · cases given

end EventQueue.Chunk
