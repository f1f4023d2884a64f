import EventQueue.OutboxSubType

/-! Service and action of a subtype. `outboxed.handle` joins them with a dot, and dots are legal in both;
`normalizeSubType` lets the service end at the first dot before which it knows a service. -/
namespace EventQueue.ServiceName
open SubType

structure Normalized where
  subType : String
  actionName : Option String
  srvName : Option String
  deriving DecidableEq

/-- A missing action is looked up as the key `undefined`. -/
def normalizeSubType (env : Environment) (type rawSubType : String) : Normalized :=
  if type ∉ [CAP_EVENT_TYPE,CAP_EVENT_TYPE ++ SUFFIX_PERIODIC] then ⟨rawSubType,none,none⟩
  else
    let found := SubType.normalizeSubType env rawSubType
    let actionSpecificCall := getCdsOutboxEventSpecificConfig env found.1 (found.2.getD "undefined")
    ⟨if actionSpecificCall.isSome then rawSubType else found.1,found.2,some found.1⟩

def Recovered (env : Environment) (serviceName event : String) : Prop :=
  let subType := chosenSubType env serviceName event
  let normalized := normalizeSubType env CAP_EVENT_TYPE subType
  normalized.srvName = some serviceName ∧ normalized.subType = subType ∧
    ((getCdsOutboxEventSpecificConfig env serviceName event).isSome → normalized.actionName = some event)

def Unshadowed (env : Environment) (serviceName : String) : Prop :=
  ∀ first rest, serviceName = join "." first rest → known env first = false

theorem normalizeSubType_cap (env : Environment) {rawSubType first : String} {parts : List String}
    (own : split '.' rawSubType = first::parts) :
    normalizeSubType env CAP_EVENT_TYPE rawSubType =
      let found := findService env first parts
      let specific := getCdsOutboxEventSpecificConfig env found.1 (found.2.head?.getD "undefined")
      ⟨if specific.isSome then rawSubType else found.1,found.2.head?,some found.1⟩ := by
  simp [normalizeSubType,SubType.normalizeSubType,own]

theorem dotted_join {text : String} (dotted : '.' ∈ text.toList) : ∃ left right, text = join "." left right := by
  obtain ⟨before,after,parts⟩ := List.append_of_mem dotted
  refine ⟨String.ofList before,String.ofList after,String.toList_injective ?_⟩
  rw [parts]
  simp [join]

theorem head_split_eq {event first : String} {parts : List String} (own : split '.' event = first::parts) :
    first = event ↔ '.' ∉ event.toList := by
  constructor
  · intro same dotted
    have whole := rejoin_split own
    cases parts with
    | nil =>
      obtain ⟨left,right,joined⟩ := dotted_join dotted
      obtain ⟨head,tail,ofLeft⟩ := split_cons left
      obtain ⟨next,later,ofRight⟩ := split_cons right
      rw [joined,split_join,ofLeft,ofRight] at own
      simp at own
    | cons part rest =>
      have longer := rejoin_append first part [] rest
      rw [List.nil_append,whole,← same] at longer
      exact join_ne_left _ _ longer
  · intro plain
    rw [split,List.splitOn_eq_singleton plain,List.map_cons,String.ofList_toList,List.cons.injEq] at own
    exact own.1.symm

section
variable {env : Environment} {serviceName : String}

theorem recovered_service {event : String} (plain : getCdsOutboxEventSpecificConfig env serviceName event = none) :
    Recovered env serviceName event ↔ Unshadowed env serviceName := by
  obtain ⟨first,parts,own⟩ := split_cons serviceName
  have nothing : known env serviceName = true ∨ ([] : List String) = [] := Or.inr rfl
  obtain ⟨reaches,_⟩ := findService_own own nothing
  rw [List.append_nil] at reaches
  have chosen : chosenSubType env serviceName event = serviceName := by simp [chosenSubType,plain]
  simp only [Recovered,chosen,normalizeSubType_cap env own,plain,Option.isSome_none,Option.some.injEq]
  constructor
  · intro recovered
    exact reaches.mp recovered.1
  · intro alone
    have reached := reaches.mpr alone
    rw [reached]
    simp

/-- With settings for the event the action has to be found again too. -/
theorem recovered_action {event : String} {config : FnConfig} (required : known env serviceName = true)
    (specific : getCdsOutboxEventSpecificConfig env serviceName event = some config) :
    Recovered env serviceName event ↔ Unshadowed env serviceName ∧ '.' ∉ event.toList := by
  obtain ⟨first,parts,own⟩ := split_cons serviceName
  obtain ⟨head,tail,other⟩ := split_cons event
  have chosen : chosenSubType env serviceName event = join "." serviceName event := by simp [chosenSubType,specific]
  have both : split '.' (join "." serviceName event) = first::(parts ++ head::tail) := by
    rw [split_join,own,other,List.cons_append]
  have stops : known env serviceName = true ∨ head::tail = [] := Or.inl required
  obtain ⟨reaches,leaves⟩ := findService_own own stops
  simp only [Recovered,chosen,normalizeSubType_cap env both,specific,Option.isSome_some,Option.some.injEq]
  rw [← head_split_eq other]
  constructor
  · intro recovered
    obtain ⟨reached,_,action⟩ := recovered
    refine ⟨reaches.mp reached,?_⟩
    have left := action trivial
    rw [leaves reached] at left
    simpa using left
  · intro condition
    obtain ⟨alone,same⟩ := condition
    have reached := reaches.mpr alone
    rw [leaves reached,reached,same]
    simp [specific]

end

/-- Service and action come back from the subtype iff no part of the service's name before a dot is a required
service and an event with its own settings has no dot. -/
theorem service_recovered_iff (env : Environment) (serviceName : String) (queue : Queue)
    (queued : env.requires.get? serviceName = some (.queued queue)) (event : String) :
    Recovered env serviceName event ↔ Unshadowed env serviceName ∧
      ((getCdsOutboxEventSpecificConfig env serviceName event).isSome → '.' ∉ event.toList) := by
  have required : known env serviceName = true := by simp [known,queued]
  cases specific : getCdsOutboxEventSpecificConfig env serviceName event with
  | none => simp [recovered_service specific]
  | some config => simp [recovered_action required specific]

def queuedWith (action : String) : Required :=
  .queued ⟨none,none,⟨[(action,.adHoc none)],List.nodup_singleton _⟩⟩

/-- A service whose name is another's with a suffix. -/
def scheduling : Environment where
  requires := ⟨[("sap.scheduling",queuedWith "main"),("sap.scheduling.Provider",queuedWith "main")],by decide⟩
  nameSpace := "default"
  events := []
  periodicEvents := []

theorem service_recovered_iff_shorter_name :
    chosenSubType scheduling "sap.scheduling" "main" = "sap.scheduling.main" ∧
      Recovered scheduling "sap.scheduling" "main" := by
  refine ⟨by decide,(service_recovered_iff scheduling "sap.scheduling" _ rfl "main").mpr ⟨?_,fun _ => by decide⟩⟩
  intro first rest named
  by_contra shadowed
  have listed : first = "sap.scheduling" ∨ first = "sap.scheduling.Provider" := by
    by_contra other
    rw [not_or] at other
    have short : ("sap.scheduling" == first) = false := beq_false_of_ne (Ne.symm other.1)
    have long : ("sap.scheduling.Provider" == first) = false := beq_false_of_ne (Ne.symm other.2)
    apply shadowed
    simp [known,scheduling,Dict.get?,List.find?,short,long]
  have lengths := congrArg String.length named
  simp only [join,String.length_append] at lengths
  have dot : ".".length = 1 := rfl
  have shorter : "sap.scheduling".length = 14 := rfl
  have longer : "sap.scheduling.Provider".length = 23 := rfl
  obtain rfl | rfl := listed
  · omega
  · omega

/-- The longer service is taken for an action of the shorter one. -/
theorem service_not_recovered_longer_name :
    scheduling.requires.get? "sap.scheduling.Provider" = some (queuedWith "main") ∧
      chosenSubType scheduling "sap.scheduling.Provider" "main" = "sap.scheduling.Provider.main" ∧
      normalizeSubType scheduling CAP_EVENT_TYPE "sap.scheduling.Provider.main" =
        ⟨"sap.scheduling",some "Provider",some "sap.scheduling"⟩ ∧
      ¬ Recovered scheduling "sap.scheduling.Provider" "main" := by
  have found : normalizeSubType scheduling CAP_EVENT_TYPE "sap.scheduling.Provider.main" =
      ⟨"sap.scheduling",some "Provider",some "sap.scheduling"⟩ := by decide
  refine ⟨rfl,by decide,found,?_⟩
  intro recovered
  have service := recovered.1
  revert service
  decide

end EventQueue.ServiceName
