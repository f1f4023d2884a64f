import EventQueue.SuccessorConfig
import Mathlib.Data.List.Perm.Basic

/-! The order of the keys of a section. The map is the same for every order exactly where no action writes the
entry of a successor that is a key with other settings; together with the precedence this is all a section
can ask for. -/
namespace EventQueue.OutboxConfig
open Saga (SAGA_SUCCESS SAGA_FAILED SAGA_DONE checkHandlerExists)
open SubType (CAP_EVENT_TYPE join split)

def Required.withEvents (required : Required) (events : Dict Settings) : Required :=
  match required.outbox,required.queued with
  | some (.on settings _),_ => {required with outbox := some (.on settings events)}
  | none,some (.on settings _) => {required with queued := some (.on settings events)}
  | _,_ => required

def Environment.withEvents (env : Environment) (serviceName : String) (events : Dict Settings) : Environment :=
  match env.requires.get? serviceName with
  | some required => {env with requires := env.requires.set serviceName (required.withEvents events)}
  | none => env

/-- The keys of the section in any other order lead to the same map. -/
def OrderFree (env : Environment) (serviceName : String) (events : Dict Settings) (eventMap : List EventConfig) : Prop :=
  ∀ others : Dict Settings, others.entries.Perm events.entries →
    ∃ otherMap, eventMapFromEnv (env.withEvents serviceName others) = .ok otherMap ∧
      ∀ key, Keyed.get? EventConfig.key otherMap key = Keyed.get? EventConfig.key eventMap key

/-- The services after this one. -/
def laterServices (env : Environment) (serviceName : String) : List (String × Required) :=
  (env.requires.entries.dropWhile (fun service => service.1 ≠ serviceName)).tail

/-- No action writes the entry of a successor that is a key with other settings. -/
def Unordered (env : Environment) (serviceName : String) (events : Dict Settings) : Prop :=
  ∀ action settings, events.get? action = some settings → settings.isPeriodic = false →
    ∀ sagaSuffix ∈ sagaSuffixes, events.get? sagaSuffix = none →
      ∀ others, events.get? (join "/" action sagaSuffix) = some others → others.isPeriodic = false →
        let own := configOf env serviceName (join "/" action sagaSuffix)
        (configOf env serviceName action).nameSpace = own.nameSpace →
          (∀ service ∈ laterServices env serviceName, ∀ config ∈ serviceLog env service, config.key ≠ own.key) →
            Alike (configOf env serviceName action) own

section
variable {env : Environment} {serviceName : String} {events : Dict Settings}

theorem eq_of_alike {config other : EventConfig} (alike : Alike config other) (type : config.type = other.type)
    (subType : config.subType = other.subType) : config = other := by
  obtain ⟨nameSpace,options⟩ := alike
  cases config
  cases other
  simp_all

/-- What the section of a service puts into the map. -/
def sectionLog (env : Environment) (serviceName : String) (events : Dict Settings) : List EventConfig :=
  srvConfigOf env serviceName::events.entries.flatMap (fnLog env serviceName events)

theorem services_split {required : Required} (found : env.requires.get? serviceName = some required) :
    ∃ before, (∀ service ∈ before, service.1 ≠ serviceName) ∧
      (∀ service ∈ laterServices env serviceName, service.1 ≠ serviceName) ∧
      env.requires.entries = before ++ (serviceName,required)::laterServices env serviceName := by
  obtain ⟨before,after,whole⟩ := List.append_of_mem (Dict.mem_entries.mpr found)
  have distinct := env.requires.nodup
  rw [whole,List.map_append,List.map_cons,List.nodup_append] at distinct
  obtain ⟨_,rest,apart⟩ := distinct
  have early : ∀ service ∈ before, service.1 ≠ serviceName :=
    fun service inside => apart _ (List.mem_map_of_mem inside) _ List.mem_cons_self
  have late : ∀ service ∈ after, service.1 ≠ serviceName := by
    intro service inside same
    have key : service.1 ∈ after.map Prod.fst := List.mem_map_of_mem inside
    rw [same] at key
    exact (List.nodup_cons.mp rest).1 key
  have later : laterServices env serviceName = after := by
    rw [laterServices,whole,List.dropWhile_append_of_pos (fun service inside => by simpa using early service inside),
      List.dropWhile_cons_of_neg (by simp)]
    rfl
  exact ⟨before,early,later ▸ late,later ▸ whole⟩

theorem withEvents_config {required : Required} {settings : Settings} (config : required.config = some (.on settings events))
    (others : Dict Settings) : (required.withEvents others).config = some (.on settings others) := by
  unfold Required.config at config ⊢
  unfold Required.withEvents
  cases outbox : required.outbox with
  | some found =>
    rw [outbox,Option.some_or] at config
    cases config
    rfl
  | none =>
    rw [outbox,Option.none_or] at config
    simp only [config,Option.none_or]

theorem withEvents_settings (required : Required) (others : Dict Settings) :
    (required.withEvents others).outbox.bind Section.settings = required.outbox.bind Section.settings ∧
      (required.withEvents others).queued.bind Section.settings = required.queued.bind Section.settings := by
  unfold Required.withEvents
  split
  · rename_i outbox
    exact ⟨by rw [outbox]; rfl,rfl⟩
  · rename_i outbox queued
    exact ⟨rfl,by rw [queued]; rfl⟩
  · exact ⟨rfl,rfl⟩

/-- The same section with its keys in another order. -/
structure Reordered (events others : Dict Settings) : Prop where
  perm : others.entries.Perm events.entries

theorem Reordered.get? {others : Dict Settings} (reordered : Reordered events others) (key : String) :
    others.get? key = events.get? key := by
  apply Option.ext
  intro settings
  rw [← Dict.mem_entries,← Dict.mem_entries]
  exact reordered.perm.mem_iff

section
variable {required : Required} {settings : Settings} {others : Dict Settings}
  (found : env.requires.get? serviceName = some required) (config : required.config = some (.on settings events))
  (reordered : Reordered events others)
include found

theorem withEvents_eq : env.withEvents serviceName others =
    {env with requires := env.requires.set serviceName (required.withEvents others)} := by
  simp only [Environment.withEvents,found]

theorem withEvents_basic (name : String) :
    getBasicCapOutboxEventConfig (env.withEvents serviceName others) name = getBasicCapOutboxEventConfig env name := by
  rw [withEvents_eq found]
  unfold getBasicCapOutboxEventConfig
  rw [Dict.get?_set]
  split
  · rename_i same
    subst same
    obtain ⟨outbox,queued⟩ := withEvents_settings required others
    simp only [found,Option.bind_some,outbox,queued]
  · rfl

theorem withEvents_srvConfigOf (name : String) :
    srvConfigOf (env.withEvents serviceName others) name = srvConfigOf env name := by
  unfold srvConfigOf
  rw [withEvents_basic found,withEvents_eq found]
  rfl

theorem withEvents_valid (event : EventConfig) : Valid (env.withEvents serviceName others) event ↔ Valid env event := by
  rw [withEvents_eq found]
  rfl

theorem withEvents_base (name : String) :
    Valid (env.withEvents serviceName others) (baseEvent (env.withEvents serviceName others) name
        (getBasicCapOutboxEventConfig (env.withEvents serviceName others) name)) ↔
      Valid env (baseEvent env name (getBasicCapOutboxEventConfig env name)) := by
  rw [withEvents_basic found,withEvents_valid found,withEvents_eq found]
  rfl

theorem withEvents_entries {before : List (String × Required)} (early : ∀ service ∈ before, service.1 ≠ serviceName)
    (late : ∀ service ∈ laterServices env serviceName, service.1 ≠ serviceName)
    (whole : env.requires.entries = before ++ (serviceName,required)::laterServices env serviceName) :
    (env.withEvents serviceName others).requires.entries =
      before ++ (serviceName,required.withEvents others)::laterServices env serviceName := by
  have present : env.requires.contains serviceName = true := Dict.contains_iff.mpr (by simp [found])
  have kept : ∀ services : List (String × Required), (∀ service ∈ services, service.1 ≠ serviceName) →
      services.map (fun service => if service.1 = serviceName then (serviceName,required.withEvents others) else service) =
        services := by
    intro services apart
    conv_rhs => rw [← List.map_id services]
    exact List.map_congr_left (fun service inside => if_neg (apart service inside))
  rw [withEvents_eq found]
  simp only [Dict.set,present,dif_pos]
  rw [whole,List.map_append,List.map_cons,kept before early,kept _ late,if_pos rfl]

include config reordered

theorem withEvents_configured (name key : String) :
    configured (env.withEvents serviceName others) name key = configured env name key := by
  rw [withEvents_eq found]
  unfold configured sectionOf
  rw [Dict.get?_set]
  by_cases same : name = serviceName
  · subst same
    simp only [if_true,found,Option.bind_some,withEvents_config config,config]
    exact reordered.get? key
  · rw [if_neg same]

theorem withEvents_specificEvent (name fnName : String) :
    specificEvent (env.withEvents serviceName others) name fnName = specificEvent env name fnName := by
  unfold specificEvent getCdsOutboxEventSpecificConfig
  simp only [withEvents_srvConfigOf found,withEvents_configured found config reordered]

theorem withEvents_configOf (name fnName : String) :
    configOf (env.withEvents serviceName others) name fnName = configOf env name fnName := by
  unfold configOf
  rw [withEvents_specificEvent found config reordered,withEvents_eq found]
  rfl

theorem withEvents_fnLog (name : String) (keys : Dict Settings) (fn : String × Settings) :
    fnLog (env.withEvents serviceName others) name keys fn = fnLog env name keys fn := by
  unfold fnLog
  rw [withEvents_configOf found config reordered]

theorem withEvents_serviceLog (service : String × Required) :
    serviceLog (env.withEvents serviceName others) service = serviceLog env service := by
  unfold serviceLog
  split
  · rw [withEvents_srvConfigOf found]
    congr 1
    exact List.flatMap_congr (fun fn _ => withEvents_fnLog found config reordered _ _ fn)
  · rfl

theorem reordered_sectionLog : sectionLog (env.withEvents serviceName others) serviceName others =
    srvConfigOf env serviceName::others.entries.flatMap (fnLog env serviceName events) := by
  unfold sectionLog
  rw [withEvents_srvConfigOf found]
  congr 1
  refine List.flatMap_congr (fun fn _ => ?_)
  rw [withEvents_fnLog found config reordered]
  unfold fnLog
  simp only [reordered.get?]

/-- All that the other services put into the map stays where it is. -/
theorem registrations_split : ∃ before, registrations env = before ++ (sectionLog env serviceName events ++
      (laterServices env serviceName).flatMap (serviceLog env)) ∧
    registrations (env.withEvents serviceName others) = before ++
      ((srvConfigOf env serviceName::others.entries.flatMap (fnLog env serviceName events)) ++
        (laterServices env serviceName).flatMap (serviceLog env)) := by
  obtain ⟨before,early,late,whole⟩ := services_split found
  refine ⟨before.flatMap (serviceLog env),?_,?_⟩
  · have own : serviceLog env (serviceName,required) = sectionLog env serviceName events := by
      simp only [serviceLog,config,sectionLog]
    rw [registrations,whole,List.flatMap_append,List.flatMap_cons,own]
  · have own : serviceLog (env.withEvents serviceName others) (serviceName,required.withEvents others) =
        srvConfigOf env serviceName::others.entries.flatMap (fnLog env serviceName events) := by
      rw [← reordered_sectionLog found config reordered]
      simp only [serviceLog,withEvents_config config,sectionLog]
    have same : serviceLog (env.withEvents serviceName others) = serviceLog env :=
      funext (withEvents_serviceLog found config reordered)
    rw [registrations,withEvents_entries found early late whole,List.flatMap_append,List.flatMap_cons,own,same]

theorem withEvents_specificValid (name fnName : String) :
    Valid (env.withEvents serviceName others) (specificEvent (env.withEvents serviceName others) name fnName) ↔
      Valid env (specificEvent env name fnName) := by
  rw [withEvents_specificEvent found config reordered,withEvents_valid found]

theorem withEvents_validService {service : String × Required} (valid : ValidService env service) :
    ValidService (env.withEvents serviceName others) service := by
  unfold ValidService at valid ⊢
  split
  · rename_i section' keys own
    simp only [own] at valid
    exact ⟨(withEvents_base found _).mpr valid.1,fun fn inside adHoc =>
      (withEvents_specificValid found config reordered _ _).mpr (valid.2 fn inside adHoc)⟩
  · trivial

theorem withEvents_validOwn (valid : ValidService env (serviceName,required)) :
    ValidService (env.withEvents serviceName others) (serviceName,required.withEvents others) := by
  simp only [ValidService,config] at valid
  simp only [ValidService,withEvents_config config]
  exact ⟨(withEvents_base found _).mpr valid.1,fun fn inside adHoc =>
    (withEvents_specificValid found config reordered _ _).mpr (valid.2 fn (reordered.perm.mem_iff.mp inside) adHoc)⟩

/-- In another order of the keys the map is built as well. -/
theorem withEvents_built (valid : ∀ service ∈ env.requires.entries, ValidService env service) :
    eventMapFromEnv (env.withEvents serviceName others) =
      .ok (Keyed.putAll EventConfig.key (registrations (env.withEvents serviceName others))) := by
  refine eventMapFromEnv_iff.mpr ⟨?_,rfl⟩
  obtain ⟨before,early,late,whole⟩ := services_split found
  rw [withEvents_entries found early late whole]
  rw [whole] at valid
  have same := @withEvents_validService env serviceName events required settings others found config reordered
  intro service inside
  rcases List.mem_append.mp inside with first | rest
  · exact same (valid service (List.mem_append_left _ first))
  · rcases List.mem_cons.mp rest with rfl | last
    · exact withEvents_validOwn found config reordered (valid _ (List.mem_append_right _ List.mem_cons_self))
    · exact same (valid service (List.mem_append_right _ (List.mem_cons_of_mem _ last)))

end

theorem key_iff {config other : EventConfig} : config.key = other.key ↔
    config.nameSpace = other.nameSpace ∧ config.type = other.type ∧ config.subType = other.subType := by
  simp [EventConfig.key]

section
variable (unordered : Unordered env serviceName events) {key : String × String × String}
  (noLater : ∀ service ∈ laterServices env serviceName, ∀ config ∈ serviceLog env service, config.key ≠ key)
include unordered noLater

/-- A key and the action before its suffix put the same entry. -/
theorem inherited_agrees {fn action : String × Settings} (member : fn ∈ events.entries) (adHoc : fn.2.isPeriodic = false)
    (actionMember : action ∈ events.entries) (actionAdHoc : action.2.isPeriodic = false) {sagaSuffix : String}
    (listed : sagaSuffix ∈ sagaSuffixes) (noGeneric : events.get? sagaSuffix = none)
    (own : (configOf env serviceName fn.1).key = key)
    (inherited : ((configOf env serviceName action.1).rename (join "/" (join "." serviceName action.1) sagaSuffix)).key = key) :
    configOf env serviceName fn.1 =
      (configOf env serviceName action.1).rename (join "/" (join "." serviceName action.1) sagaSuffix) := by
  obtain ⟨nameSpace,_,subType⟩ := key_iff.mp (own.trans inherited.symm)
  have name : fn.1 = join "/" action.1 sagaSuffix := by
    rw [EventConfig.rename,join_slash_dot] at subType
    exact join_dot_inj.mp subType
  have present : events.get? fn.1 = some fn.2 := Dict.mem_entries.mp member
  have actionPresent : events.get? action.1 = some action.2 := Dict.mem_entries.mp actionMember
  rw [name] at present own nameSpace ⊢
  have alike := unordered action.1 action.2 actionPresent actionAdHoc sagaSuffix listed noGeneric fn.2 present adHoc
    nameSpace.symm (fun service inside config put => own ▸ noLater service inside config put)
  exact eq_of_alike (alike_symm alike) rfl (by rw [EventConfig.rename,join_slash_dot]; rfl)

/-- What a section puts under one key is one entry, put perhaps several times. -/
theorem sectionLog_agree {config other : EventConfig} (member : config ∈ sectionLog env serviceName events)
    (own : config.key = key) (otherMember : other ∈ sectionLog env serviceName events) (otherOwn : other.key = key) :
    config = other := by
  have subTypes : config.subType = other.subType := (key_iff.mp (own.trans otherOwn.symm)).2.2
  have base : (srvConfigOf env serviceName).subType = serviceName := rfl
  rcases List.mem_cons.mp member with rfl | inside
  · rcases List.mem_cons.mp otherMember with rfl | otherInside
    · rfl
    · obtain ⟨fn,_,put⟩ := List.mem_flatMap.mp otherInside
      exact absurd (subTypes.symm.trans base) (fnLog_service put)
  · obtain ⟨fn,listed,put⟩ := List.mem_flatMap.mp inside
    rcases List.mem_cons.mp otherMember with rfl | otherInside
    · exact absurd (subTypes.trans base) (fnLog_service put)
    · obtain ⟨more,otherListed,otherPut⟩ := List.mem_flatMap.mp otherInside
      obtain ⟨adHoc,rfl | ⟨sagaSuffix,suffix,absent,rfl⟩⟩ := mem_fnLog.mp put
      · obtain ⟨otherAdHoc,rfl | ⟨otherSuffix,suffix,absent,rfl⟩⟩ := mem_fnLog.mp otherPut
        · have same := join_dot_inj.mp subTypes
          rw [same]
        · exact inherited_agrees unordered noLater listed adHoc otherListed otherAdHoc suffix absent own otherOwn
      · obtain ⟨otherAdHoc,rfl | ⟨otherSuffix,otherListed',_,rfl⟩⟩ := mem_fnLog.mp otherPut
        · exact (inherited_agrees unordered noLater otherListed otherAdHoc listed adHoc suffix absent otherOwn own).symm
        · rw [EventConfig.rename,EventConfig.rename,join_slash_dot,join_slash_dot] at subTypes
          obtain ⟨action,name⟩ := (join_slash_inj (slash_suffix suffix) (slash_suffix otherListed')).mp
            (join_dot_inj.mp subTypes)
          rw [action,name]

end

theorem getLast?_perm {items others : List EventConfig} (perm : others.Perm items)
    (agree : ∀ config ∈ items, ∀ other ∈ items, config = other) : others.getLast? = items.getLast? := by
  cases items with
  | nil => rw [perm.eq_nil]
  | cons first rest =>
    rw [Keyed.getLast?_all (fun other inside => agree other inside first List.mem_cons_self) (List.cons_ne_nil _ _)]
    refine Keyed.getLast?_all (fun other inside => ?_) (fun empty => ?_)
    · exact agree other (perm.mem_iff.mp inside) first List.mem_cons_self
    · rw [empty] at perm
      exact absurd perm.symm.eq_nil (List.cons_ne_nil _ _)

theorem get?_parts (before own after : List EventConfig) (key : String × String × String) :
    Keyed.get? EventConfig.key (Keyed.putAll EventConfig.key (before ++ (own ++ after))) key =
      (after.filter (fun config => config.key = key)).getLast?.or
        ((own.filter (fun config => config.key = key)).getLast?.or
          (before.filter (fun config => config.key = key)).getLast?) := by
  rw [Keyed.get?_putAll,List.filter_append,List.filter_append,List.getLast?_append,List.getLast?_append,Option.or_assoc]

theorem orderFree_of_unordered {eventMap : List EventConfig} (queued : Queued env serviceName events)
    (built : eventMapFromEnv env = .ok eventMap) (unordered : Unordered env serviceName events) :
    OrderFree env serviceName events eventMap := by
  intro others perm
  obtain ⟨required,settings,found,config⟩ := queued.listed
  obtain ⟨valid,rfl⟩ := eventMapFromEnv_iff.mp built
  refine ⟨_,withEvents_built found config ⟨perm⟩ valid,fun key => ?_⟩
  obtain ⟨before,whole,reordered⟩ := registrations_split found config (⟨perm⟩ : Reordered events others)
  rw [whole,reordered,get?_parts,get?_parts]
  cases late : (((laterServices env serviceName).flatMap (serviceLog env)).filter
      (fun config => config.key = key)).getLast? with
  | some config => rfl
  | none =>
    have noLater : ∀ service ∈ laterServices env serviceName, ∀ config ∈ serviceLog env service, config.key ≠ key := by
      intro service inside config put
      have empty := List.filter_eq_nil_iff.mp (List.getLast?_eq_none_iff.mp late) config
        (List.mem_flatMap.mpr ⟨service,inside,put⟩)
      simpa using empty
    have agree : (srvConfigOf env serviceName::others.entries.flatMap (fnLog env serviceName events)).Perm
        (sectionLog env serviceName events) := (perm.flatMap_right _).cons _
    rw [getLast?_perm (agree.filter _) (fun config member other otherMember => by
      obtain ⟨inside,own⟩ := List.mem_filter.mp member
      obtain ⟨otherInside,otherOwn⟩ := List.mem_filter.mp otherMember
      exact sectionLog_agree unordered noLater inside (by simpa using own) otherInside (by simpa using otherOwn))]

/-- Any two keys of a section can stand in either order. -/
theorem reorder_pair {first second : String × Settings} (one : first ∈ events.entries) (two : second ∈ events.entries)
    (differ : first ≠ second) :
    ∃ others : Dict Settings, others.entries.Perm events.entries ∧ [first,second].Sublist others.entries := by
  obtain ⟨before,after,whole⟩ := List.append_of_mem one
  have inside : second ∈ before ++ after := by
    rw [whole] at two
    rcases List.mem_append.mp two with early | late
    · exact List.mem_append_left _ early
    · exact List.mem_append_right _ ((List.mem_cons.mp late).resolve_left differ.symm)
  obtain ⟨front,back,rest⟩ := List.append_of_mem inside
  have perm : (first::second::(front ++ back)).Perm events.entries := by
    rw [whole]
    refine List.Perm.trans ?_ List.perm_middle.symm
    rw [rest]
    exact List.perm_middle.symm.cons first
  have distinct : ((first::second::(front ++ back)).map Prod.fst).Nodup :=
    (perm.map Prod.fst).nodup_iff.mpr events.nodup
  exact ⟨⟨first::second::(front ++ back),distinct⟩,perm,((List.nil_sublist _).cons_cons second).cons_cons first⟩

/-- Of two keys that write one entry the later one wins, unless a later service writes it again. -/
theorem last_of_pair {eventMap : List EventConfig} (queued : Queued env serviceName events)
    (built : eventMapFromEnv env = .ok eventMap) (free : OrderFree env serviceName events eventMap)
    {first second : String × Settings} {two : EventConfig} {subType : String} (other : subType ≠ serviceName)
    (firstMember : first ∈ events.entries) (secondMember : second ∈ events.entries) (differ : first ≠ second)
    (lists : Lists env serviceName events subType second two)
    (silent : ∀ more ∈ events.entries, more ≠ first → more ≠ second → ∀ config ∈ fnLog env serviceName events more,
      config.subType ≠ subType)
    (noLater : ∀ service ∈ laterServices env serviceName, ∀ config ∈ serviceLog env service, config.key ≠ two.key) :
    Keyed.get? EventConfig.key eventMap two.key = some two := by
  obtain ⟨required,settings,found,config⟩ := queued.listed
  obtain ⟨valid,rfl⟩ := eventMapFromEnv_iff.mp built
  obtain ⟨others,perm,order⟩ := reorder_pair firstMember secondMember differ
  obtain ⟨otherMap,otherBuilt,same⟩ := free others perm
  rw [withEvents_built found config ⟨perm⟩ valid] at otherBuilt
  obtain ⟨before,_,reordered⟩ := registrations_split found config (⟨perm⟩ : Reordered events others)
  rw [← same two.key,← Except.ok.inj otherBuilt,reordered,get?_parts]
  have late : ((laterServices env serviceName).flatMap (serviceLog env)).filter (fun config => config.key = two.key) = [] := by
    refine List.filter_eq_nil_iff.mpr (fun config inside => ?_)
    obtain ⟨service,listed,put⟩ := List.mem_flatMap.mp inside
    simpa using noLater service listed config put
  have named : ∀ config : EventConfig, config.key = two.key → config.subType = subType :=
    fun config own => (key_iff.mp own).2.2.trans lists.named
  have base : (srvConfigOf env serviceName).key ≠ two.key :=
    fun own => other (named _ own).symm
  have pair : (srvConfigOf env serviceName::others.entries.flatMap (fnLog env serviceName events)).filter
        (fun config => config.key = two.key) =
      (fnLog env serviceName events first).filter (fun config => config.key = two.key) ++
        (fnLog env serviceName events second).filter (fun config => config.key = two.key) := by
    rw [List.filter_cons,if_neg (by simpa using base),List.filter_flatMap]
    refine Keyed.flatMap_pair others.nodup.of_map order (fun more inside notFirst notSecond => ?_)
    refine List.filter_eq_nil_iff.mpr (fun config member => ?_)
    have quiet := silent more (perm.mem_iff.mp inside) notFirst notSecond config member
    simpa using fun own => quiet (named config own)
  have filled : (fnLog env serviceName events second).filter (fun config => config.key = two.key) ≠ [] :=
    List.ne_nil_of_mem (List.mem_filter.mpr ⟨lists.member,by simp⟩)
  have every : ∀ config ∈ (fnLog env serviceName events second).filter (fun config => config.key = two.key),
      config = two := by
    intro config inside
    obtain ⟨member,own⟩ := List.mem_filter.mp inside
    exact lists.only config member (named config (by simpa using own))
  rw [late,pair,List.getLast?_append,Keyed.getLast?_all every filled]
  rfl

theorem unordered_of_orderFree {eventMap : List EventConfig} (queued : Queued env serviceName events)
    (built : eventMapFromEnv env = .ok eventMap) (free : OrderFree env serviceName events eventMap) :
    Unordered env serviceName events := by
  intro action settings actionPresent actionAdHoc sagaSuffix listed noGeneric ownSettings present adHoc own nameSpace noLater
  let inherited := (configOf env serviceName action).rename (join "." serviceName (join "/" action sagaSuffix))
  have shared : inherited.key = own.key := key_iff.mpr ⟨nameSpace,rfl,rfl⟩
  have apart : (action,settings) ≠ (join "/" action sagaSuffix,ownSettings) :=
    fun same => join_slash_ne action sagaSuffix (congrArg Prod.fst same).symm
  have silent : ∀ more ∈ events.entries, more ≠ (action,settings) → more ≠ (join "/" action sagaSuffix,ownSettings) →
      ∀ config ∈ fnLog env serviceName events more,
        config.subType ≠ join "." serviceName (join "/" action sagaSuffix) := by
    intro more inside notAction notOwn
    exact silent_successor listed (fun key => notOwn (entry_unique present inside key))
      (fun key => absurd (entry_unique actionPresent inside key) notAction)
  have actionMember := Dict.mem_entries.mpr actionPresent
  have member := Dict.mem_entries.mpr present
  have ownLast := last_of_pair queued built free (join_dot_ne _ _) actionMember member apart
    (lists_successor listed adHoc) silent noLater
  have inheritedLast := last_of_pair queued built free (join_dot_ne _ _) member actionMember apart.symm
    (lists_inherited listed actionAdHoc noGeneric)
    (fun more inside notOwn notAction => silent more inside notAction notOwn)
    (fun service inside config put => shared ▸ noLater service inside config put)
  have same : own = inherited := Option.some.inj (ownLast.symm.trans (by rw [← shared]; exact inheritedLast))
  rw [same]
  exact alike_symm (alike_rename _ _)

end

/-- Successors are processed under the configuration their section asks for and the order of its keys has
no part in the map, exactly if every published successor is decided that way and no action writes the entry
of a successor with a key of its own. -/
theorem successor_precedence_iff (env : Environment) (serviceName : String) (events : Dict Settings)
    (onHandlers : List String) (eventMap : List EventConfig) (queued : Queued env serviceName events)
    (built : eventMapFromEnv env = .ok eventMap) :
    Precedence env serviceName onHandlers eventMap ∧ OrderFree env serviceName events eventMap ↔
      Decided env serviceName onHandlers events ∧ Unordered env serviceName events :=
  and_congr (precedence_iff queued built onHandlers)
    ⟨unordered_of_orderFree queued built,orderFree_of_unordered queued built⟩

def retries (count : Nat) : Settings :=
  ⟨none,fun name => if name = "retryAttempts" then some (.nat count) else none⟩

def retriesOf (config : EventConfig) : Option Rat :=
  match read config.options "retryAttempts" with
  | .num (.finite value) => some value
  | _ => none

theorem retriesOf_alike {config other : EventConfig} (alike : Alike config other) : retriesOf config = retriesOf other := by
  rw [retriesOf,alike.2,retriesOf]

/-- One queued service with these keys in its section. -/
def ordersEnv (events : Dict Settings) : Environment where
  nameSpace := "default"
  isMultiTenancy := false
  instanceLoadLimit := .finite 100
  outbox := none
  queue := none
  requires := ⟨[("OrderService",⟨none,some (.on ⟨none,fun _ => none⟩ events)⟩)],List.nodup_singleton _⟩
  numberOf := fun value => match value with
    | .num number => number
    | _ => .nan
  parsesCron := fun _ => true

theorem ordersEnv_queued (events : Dict Settings) : Queued (ordersEnv events) "OrderService" events :=
  ⟨_,_,rfl,rfl⟩

def actionOnly : Dict Settings := ⟨[("orderCreated",retries 9)],List.nodup_singleton _⟩

theorem actionOnly_get (key : String) :
    actionOnly.get? key = if key = "orderCreated" then some (retries 9) else none := by
  by_cases same : key = "orderCreated"
  · subst same
    rfl
  · simp [actionOnly,Dict.get?,same,Ne.symm same]

theorem actionOnly_successor (action sagaSuffix : String) : actionOnly.get? (join "/" action sagaSuffix) = none := by
  rw [actionOnly_get,if_neg]
  intro same
  have slash : '/' ∈ (join "/" action sagaSuffix).toList := by simp [toList_slash]
  rw [same] at slash
  revert slash
  decide

theorem successor_precedence_iff_inherited : ∃ eventMap, eventMapFromEnv (ordersEnv actionOnly) = .ok eventMap ∧
    Precedence (ordersEnv actionOnly) "OrderService" ["orderCreated","orderCreated/#succeeded"] eventMap ∧
    OrderFree (ordersEnv actionOnly) "OrderService" actionOnly eventMap := by
  have started : (eventMapFromEnv (ordersEnv actionOnly)).toOption.isSome = true := by decide +kernel
  cases built : eventMapFromEnv (ordersEnv actionOnly) with
  | error error =>
    rw [built] at started
    cases started
  | ok eventMap =>
    refine ⟨eventMap,rfl,(successor_precedence_iff (ordersEnv actionOnly) "OrderService" actionOnly
      ["orderCreated","orderCreated/#succeeded"] eventMap (ordersEnv_queued actionOnly) built).mpr ⟨?_,?_⟩⟩
    · intro action plain sagaSuffix listed event handled
      have noOwn := actionOnly_successor action sagaSuffix
      have noGeneric : actionOnly.get? sagaSuffix = none := by
        rw [actionOnly_get,if_neg]
        rintro rfl
        revert listed
        decide
      have specific : event = join "/" action sagaSuffix := by
        refine (handler_event plain handled).resolve_right ?_
        rintro rfl
        have registered : event ∈ ["orderCreated","orderCreated/#succeeded"] := by
          unfold checkHandlerExists at handled
          rcases Option.or_eq_some_iff.mp handled with own | ⟨_,generic⟩
          · exact List.mem_of_find?_eq_some own
          · exact List.mem_of_find?_eq_some generic
        simp only [sagaSuffixes,List.mem_cons,List.not_mem_nil,or_false] at listed registered
        rcases listed with rfl | rfl | rfl
        all_goals simp [SAGA_SUCCESS,SAGA_DONE,SAGA_FAILED] at registered
      refine ⟨fun _ => ?_,fun irregular => absurd ?_ irregular⟩
      · rw [Decides,if_pos specific,contains_false.mpr noOwn,contains_false.mpr noGeneric]
        simp
      · refine ⟨?_,?_⟩
        · intro service inside apart
          exact absurd (congrArg Prod.fst (List.mem_singleton.mp inside)) apart
        · intro key _ settings found
          rw [configured_events (ordersEnv_queued actionOnly),actionOnly_get] at found
          split at found
          · cases found
            rfl
          · cases found
    · intro action settings _ _ sagaSuffix _ _ others present
      rw [actionOnly_successor] at present
      cases present

def successorFirst : Dict Settings := ⟨[("orderCreated/#succeeded",retries 1),("orderCreated",retries 9)],by decide⟩

/-- The key of the successor stands before the one of its action and loses its settings. -/
theorem successor_settings_lost : ∃ eventMap, eventMapFromEnv (ordersEnv successorFirst) = .ok eventMap ∧
    ¬Precedence (ordersEnv successorFirst) "OrderService" ["orderCreated","orderCreated/#succeeded"] eventMap ∧
    ¬OrderFree (ordersEnv successorFirst) "OrderService" successorFirst eventMap := by
  have processed : ((eventMapFromEnv (ordersEnv successorFirst)).toOption.bind (fun eventMap =>
      processedUnder (ordersEnv successorFirst) eventMap "OrderService" "orderCreated/#succeeded")).bind retriesOf =
        some 9 := by
    decide +kernel
  cases built : eventMapFromEnv (ordersEnv successorFirst) with
  | error error =>
    rw [built] at processed
    cases processed
  | ok eventMap =>
    rw [built] at processed
    refine ⟨eventMap,rfl,?_,?_⟩
    · intro precedence
      obtain ⟨config,found,alike⟩ := precedence "orderCreated" ⟨by decide,by decide⟩ SAGA_SUCCESS (by decide)
        "orderCreated/#succeeded" (by decide)
      have own : retriesOf config = some 9 := by
        simpa only [Except.toOption,Option.bind_some,found] using processed
      have asked : retriesOf (wanted (ordersEnv successorFirst) "OrderService" "orderCreated" SAGA_SUCCESS) = some 1 := by
        decide +kernel
      rw [retriesOf_alike alike,asked] at own
      revert own
      decide
    · intro free
      have unordered := unordered_of_orderFree (ordersEnv_queued successorFirst) built free
      have alike := unordered "orderCreated" (retries 9) rfl rfl SAGA_SUCCESS (by decide) rfl (retries 1) rfl rfl rfl
        (fun service inside => absurd inside (List.not_mem_nil))
      have differ : retriesOf (configOf (ordersEnv successorFirst) "OrderService" "orderCreated") ≠
          retriesOf (configOf (ordersEnv successorFirst) "OrderService" (join "/" "orderCreated" SAGA_SUCCESS)) := by
        decide +kernel
      exact differ (retriesOf_alike alike)

def genericAndAction : Dict Settings := ⟨[("#succeeded",retries 1),("orderCreated",retries 9)],by decide⟩

/-- With a generic key the successor of an action has no entry at all. -/
example : ((eventMapFromEnv (ordersEnv genericAndAction)).toOption.map (fun eventMap =>
    (processedUnder (ordersEnv genericAndAction) eventMap "OrderService" "orderCreated/#succeeded").isSome)) =
      some false := by
  decide +kernel

end EventQueue.OutboxConfig
