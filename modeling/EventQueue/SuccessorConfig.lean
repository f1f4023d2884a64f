import EventQueue.OutboxConfig
import Mathlib.Data.List.TakeWhile

/-! The configuration that a successor is processed under, against the one its section asks for: the
configuration of the key `action/#suffix`, else that of the generic key `#suffix`, else that of the action.
The loop over the keys of a section also writes entries for other keys, so the order of the keys decides. -/
namespace EventQueue.OutboxConfig
open Saga (SAGA_SUCCESS SAGA_FAILED SAGA_DONE checkHandlerExists)
open SubType (CAP_EVENT_TYPE join split)

def sagaSuffixes : List String := [SAGA_SUCCESS,SAGA_DONE,SAGA_FAILED]

structure PlainAction (action : String) : Prop where
  slashless : '/' ∉ action.toList
  proper : action ∉ sagaSuffixes

/-- The same settings, whatever the subtype they stand under. -/
def Alike (config other : EventConfig) : Prop := config.nameSpace = other.nameSpace ∧ config.options = other.options

/-- The settings of a key merged over the base configuration of the service. -/
def overBase (env : Environment) (serviceName : String) (settings : Option Settings) : EventConfig :=
  completed env (merged (srvConfigOf env serviceName) serviceName (settings.map (fun settings =>
    {settings with options := mixCAPPropertyNamesWithEventQueueNames settings.options})))

/-- The configuration the section asks for. -/
def wanted (env : Environment) (serviceName action sagaSuffix : String) : EventConfig :=
  overBase env serviceName ((configured env serviceName (join "/" action sagaSuffix)).or
    ((configured env serviceName sagaSuffix).or (configured env serviceName action)))

/-- The configuration that `outboxed.handle` publishes an event with and an instance with the same
environment processes it under. -/
def processedUnder (env : Environment) (eventMap : List EventConfig) (serviceName event : String) :
    Option EventConfig :=
  let subType := chosenSubType env serviceName event
  (findBaseCAPServiceWithoutNamespace eventMap subType).bind (fun srvConfig =>
    getEventConfig eventMap CAP_EVENT_TYPE subType srvConfig.nameSpace)

/-- Every successor that is published has the configuration its section asks for. -/
def Precedence (env : Environment) (serviceName : String) (onHandlers : List String) (eventMap : List EventConfig) :
    Prop :=
  ∀ action, PlainAction action → ∀ sagaSuffix ∈ sagaSuffixes, ∀ event,
    checkHandlerExists onHandlers action sagaSuffix = some event →
      ∃ config, processedUnder env eventMap serviceName event = some config ∧
        Alike config (wanted env serviceName action sagaSuffix)

/-- The subtype belongs to the section alone and no key that has a say is periodic. -/
structure Regular (env : Environment) (serviceName action sagaSuffix subType : String) : Prop where
  alone : ∀ service ∈ env.requires.entries, service.1 ≠ serviceName →
    ∀ config ∈ serviceLog env service, config.subType ≠ subType
  adHoc : ∀ key ∈ [action,sagaSuffix,join "/" action sagaSuffix], ∀ settings,
    configured env serviceName key = some settings → settings.isPeriodic = false

/-- Of what all sections list for the subtype, the last one in the namespace of the first one. -/
def Governed (env : Environment) (subType : String) (config : EventConfig) : Prop :=
  ∃ governing, Keyed.governing EventConfig.key
      ((registrations env).filter (fun config => config.subType = subType)) = some governing ∧
    Alike governing config

/-- The action and its successor are both keys: within one namespace the later key wins, otherwise the
earlier one is found first. -/
def InOrder (env : Environment) (serviceName : String) (events : Dict Settings) (action successor : String) : Prop :=
  if (configOf env serviceName action).nameSpace = (configOf env serviceName successor).nameSpace then
    [action,successor].Sublist events.keys ∨ Alike (configOf env serviceName action) (configOf env serviceName successor)
  else [successor,action].Sublist events.keys

def Decides (env : Environment) (serviceName : String) (events : Dict Settings) (action sagaSuffix event : String) :
    Prop :=
  let successor := join "/" action sagaSuffix
  if event = successor then
    if events.contains successor then
      events.contains action = true → events.contains sagaSuffix = false → InOrder env serviceName events action successor
    else events.contains sagaSuffix = true → events.contains action = false ∧
      Alike (srvConfigOf env serviceName) (configOf env serviceName sagaSuffix)
  else Alike (if events.contains sagaSuffix then configOf env serviceName sagaSuffix else srvConfigOf env serviceName)
    (wanted env serviceName action sagaSuffix)

/-- When the section gets the precedence it asks for. -/
def Decided (env : Environment) (serviceName : String) (onHandlers : List String) (events : Dict Settings) : Prop :=
  ∀ action, PlainAction action → ∀ sagaSuffix ∈ sagaSuffixes, ∀ event,
    checkHandlerExists onHandlers action sagaSuffix = some event →
      let subType := chosenSubType env serviceName event
      (Regular env serviceName action sagaSuffix subType → Decides env serviceName events action sagaSuffix event) ∧
      (¬Regular env serviceName action sagaSuffix subType →
        Governed env subType (wanted env serviceName action sagaSuffix))

theorem slash_suffix {sagaSuffix : String} (listed : sagaSuffix ∈ sagaSuffixes) : '/' ∉ sagaSuffix.toList := by
  simp only [sagaSuffixes,List.mem_cons,List.not_mem_nil,or_false] at listed
  rcases listed with rfl | rfl | rfl
  all_goals decide

theorem toList_slash (left right : String) : (join "/" left right).toList = left.toList ++ '/'::right.toList := by
  have slash : "/".toList = ['/'] := rfl
  simp [join,slash]

theorem split_slash_join {left right : String} (plain : '/' ∉ left.toList) (last : '/' ∉ right.toList) :
    split '/' (join "/" left right) = [left,right] := by
  rw [split,toList_slash,List.splitOn_append_cons_self,List.splitOn_eq_singleton plain,List.splitOn_eq_singleton last]
  simp

theorem split_slash_plain {text : String} (plain : '/' ∉ text.toList) : split '/' text = [text] := by
  rw [split,List.splitOn_eq_singleton plain]
  simp

theorem takeWhile_slash {tail : List Char} (plain : '/' ∉ tail) (rest : List Char) :
    (tail ++ '/'::rest).takeWhile (· ≠ '/') = tail := by
  have apart : ∀ char ∈ tail, decide (char ≠ '/') = true := by
    intro char member
    have differ : char ≠ '/' := fun slash => plain (slash ▸ member)
    simpa using differ
  rw [List.takeWhile_append_of_pos apart,List.takeWhile_cons_of_neg (by simp),List.append_nil]

/-- The last slash of a text tells what stands behind it. -/
theorem join_slash_inj {left right other tail : String} (rightPlain : '/' ∉ right.toList) (tailPlain : '/' ∉ tail.toList) :
    join "/" left right = join "/" other tail ↔ left = other ∧ right = tail := by
  constructor
  · intro same
    have chars := congrArg String.toList same
    rw [toList_slash,toList_slash] at chars
    have reversed : right.toList.reverse ++ '/'::left.toList.reverse = tail.toList.reverse ++ '/'::other.toList.reverse := by
      simpa using congrArg List.reverse chars
    have rightFront := takeWhile_slash (show '/' ∉ right.toList.reverse by simpa using rightPlain) left.toList.reverse
    have tailFront := takeWhile_slash (show '/' ∉ tail.toList.reverse by simpa using tailPlain) other.toList.reverse
    have behind : right.toList.reverse = tail.toList.reverse := by rw [← rightFront,reversed,tailFront]
    rw [behind,List.append_cancel_left_eq,List.cons.injEq] at reversed
    exact ⟨String.toList_inj.mp (List.reverse_injective reversed.2),String.toList_inj.mp (List.reverse_injective behind)⟩
  · rintro ⟨rfl,rfl⟩
    rfl

theorem join_dot_inj {serviceName key other : String} : join "." serviceName key = join "." serviceName other ↔ key = other := by
  simp [join,String.append_assoc]

theorem join_dot_ne (serviceName key : String) : join "." serviceName key ≠ serviceName := by
  intro same
  have sizes := congrArg String.length same
  simp only [join,String.length_append] at sizes
  have dot : ".".length = 1 := rfl
  omega

theorem join_slash_ne (action sagaSuffix : String) : join "/" action sagaSuffix ≠ action := by
  intro same
  have sizes := congrArg String.length same
  simp only [join,String.length_append] at sizes
  have slash : "/".length = 1 := rfl
  omega

theorem action_ne_successor (action sagaSuffix : String) (settings own : Settings) :
    (action,settings) ≠ (join "/" action sagaSuffix,own) :=
  fun same => join_slash_ne action sagaSuffix (congrArg Prod.fst same).symm

theorem join_slash_dot (serviceName key sagaSuffix : String) :
    join "/" (join "." serviceName key) sagaSuffix = join "." serviceName (join "/" key sagaSuffix) := by
  simp [join,String.append_assoc]

theorem alike_trans {first second third : EventConfig} (left : Alike first second) (right : Alike second third) :
    Alike first third := ⟨left.1.trans right.1,left.2.trans right.2⟩

theorem alike_symm {config other : EventConfig} (alike : Alike config other) : Alike other config :=
  ⟨alike.1.symm,alike.2.symm⟩

/-- Replacing one side by something alike. -/
theorem alike_left {config other third : EventConfig} (alike : Alike config other) :
    Alike config third ↔ Alike other third :=
  ⟨alike_trans (alike_symm alike),alike_trans alike⟩

theorem alike_right {config other third : EventConfig} (alike : Alike config other) :
    Alike third config ↔ Alike third other :=
  ⟨fun given => alike_trans given alike,fun given => alike_trans given (alike_symm alike)⟩

theorem alike_rename (config : EventConfig) (subType : String) : Alike (config.rename subType) config := ⟨rfl,rfl⟩

section
variable {env : Environment} {serviceName : String}

/-- Without settings of its own an event has the base configuration. -/
theorem alike_base : Alike (srvConfigOf env serviceName) (overBase env serviceName none) := by
  let base := srvConfigOf env serviceName
  have complete : Complete env base.options := complete_completed (base_allowed _ _)
  have internal : base.options "internalEvent" = some (.bool true) := by
    simp [base,srvConfigOf,completed,basicEventTransformation,basicEventTransformationAfterValidate,baseEvent,orDefault,
      assign]
  have unchanged : (merged base serviceName none).options = base.options := by
    have empty : spread base.options (fun _ => none) = base.options := rfl
    simp only [merged,Option.map_none,Option.getD_none,empty,complete.allowed,assign_read internal]
  have settled : Complete env (merged base serviceName none).options := unchanged ▸ complete
  refine ⟨?_,?_⟩
  · rfl
  · rw [overBase,Option.map_none,completed_complete settled]
    exact unchanged.symm

theorem alike_configOf {key : String} {settings : Option Settings}
    (found : getCdsOutboxEventSpecificConfig env serviceName key = settings.map (fun settings =>
      {settings with options := mixCAPPropertyNamesWithEventQueueNames settings.options})) :
    Alike (configOf env serviceName key) (overBase env serviceName settings) := by
  rw [configOf,specificEvent,found]
  exact ⟨rfl,rfl⟩

theorem specific_configured {key : String} {settings : Settings} (present : configured env serviceName key = some settings) :
    getCdsOutboxEventSpecificConfig env serviceName key = (some settings).map (fun settings =>
      {settings with options := mixCAPPropertyNamesWithEventQueueNames settings.options}) := by
  rw [getCdsOutboxEventSpecificConfig,present,Option.some_or]

theorem specific_plain {key : String} (plain : '/' ∉ key.toList) :
    getCdsOutboxEventSpecificConfig env serviceName key = (configured env serviceName key).map (fun settings =>
      {settings with options := mixCAPPropertyNamesWithEventQueueNames settings.options}) := by
  rw [getCdsOutboxEventSpecificConfig,split_slash_plain plain,Option.or_none]

theorem specific_successor {action sagaSuffix : String} (plain : '/' ∉ action.toList)
    (listed : sagaSuffix ∈ sagaSuffixes) :
    getCdsOutboxEventSpecificConfig env serviceName (join "/" action sagaSuffix) =
      ((configured env serviceName (join "/" action sagaSuffix)).or (configured env serviceName action)).map
        (fun settings => {settings with options := mixCAPPropertyNamesWithEventQueueNames settings.options}) := by
  have suffix : sagaSuffix ∈ [SAGA_FAILED,SAGA_SUCCESS,SAGA_DONE] := by
    simp only [sagaSuffixes,List.mem_cons,List.not_mem_nil,or_false] at listed ⊢
    tauto
  rw [getCdsOutboxEventSpecificConfig,split_slash_join plain (slash_suffix listed)]
  simp only [suffix,if_true]

theorem find_governing {eventMap : List EventConfig} (built : eventMapFromEnv env = .ok eventMap) (subType : String) :
    findBaseCAPServiceWithoutNamespace eventMap subType = Keyed.governing EventConfig.key
      ((registrations env).filter (fun config => config.subType = subType)) := by
  obtain ⟨valid,rfl⟩ := eventMapFromEnv_iff.mp built
  have kept := Keyed.filter_putAll EventConfig.key (fun key => decide (key.2.2 = subType)) (registrations env)
  have agree : ∀ config ∈ Keyed.putAll EventConfig.key (registrations env),
      (decide (config.type = CAP_EVENT_TYPE) && decide (config.subType = subType)) =
        decide (config.key.2.2 = subType) := by
    intro config member
    have type := (settled_registrations valid config (Keyed.mem_putAll EventConfig.key member)).type
    simp [type,EventConfig.key]
  rw [findBaseCAPServiceWithoutNamespace,← List.head?_filter,List.filter_congr agree,kept,Keyed.head?_putAll]
  rfl

theorem processedUnder_eq {eventMap : List EventConfig} (built : eventMapFromEnv env = .ok eventMap) (event : String) :
    processedUnder env eventMap serviceName event = Keyed.governing EventConfig.key
      ((registrations env).filter (fun config => config.subType = chosenSubType env serviceName event)) := by
  rw [← find_governing built,processedUnder]
  cases found : findBaseCAPServiceWithoutNamespace eventMap (chosenSubType env serviceName event) with
  | none => rfl
  | some config =>
    obtain ⟨valid,rfl⟩ := eventMapFromEnv_iff.mp built
    have fits := List.find?_some found
    simp only [Bool.and_eq_true,decide_eq_true_eq] at fits
    have own := Keyed.get?_mem EventConfig.key (Keyed.nodup_putAll EventConfig.key (registrations env))
      (List.mem_of_find?_eq_some found)
    rw [EventConfig.key,fits.1,fits.2] at own
    exact own

theorem processed_governed {eventMap : List EventConfig} (built : eventMapFromEnv env = .ok eventMap) (event : String)
    (config : EventConfig) :
    (∃ found, processedUnder env eventMap serviceName event = some found ∧ Alike found config) ↔
      Governed env (chosenSubType env serviceName event) config := by
  rw [processedUnder_eq built,Governed]

/-- What one key lists for a successor: its own settings, or those of the action before the suffix. -/
theorem fnLog_successor {events : Dict Settings} {fn : String × Settings} {action sagaSuffix : String}
    (listed : sagaSuffix ∈ sagaSuffixes) {config : EventConfig} (member : config ∈ fnLog env serviceName events fn)
    (named : config.subType = join "." serviceName (join "/" action sagaSuffix)) :
    (fn.1 = join "/" action sagaSuffix ∧ config = configOf env serviceName (join "/" action sagaSuffix)) ∨
      (fn.1 = action ∧ events.get? sagaSuffix = none ∧ config = (configOf env serviceName action).rename
        (join "." serviceName (join "/" action sagaSuffix))) := by
  obtain ⟨_,rfl | ⟨other,inside,absent,rfl⟩⟩ := mem_fnLog.mp member
  · have key := join_dot_inj.mp named
    exact Or.inl ⟨key,by rw [key]⟩
  · rw [EventConfig.rename,join_slash_dot] at named
    obtain ⟨rfl,rfl⟩ := (join_slash_inj (slash_suffix inside) (slash_suffix listed)).mp (join_dot_inj.mp named)
    exact Or.inr ⟨rfl,absent,by rw [join_slash_dot]⟩

/-- Only the key itself lists anything for a name without a slash. -/
theorem fnLog_plain {events : Dict Settings} {fn : String × Settings} {key : String} (plain : '/' ∉ key.toList)
    {config : EventConfig} (member : config ∈ fnLog env serviceName events fn)
    (named : config.subType = join "." serviceName key) : fn.1 = key ∧ config = configOf env serviceName key := by
  obtain ⟨_,rfl | ⟨other,_,_,rfl⟩⟩ := mem_fnLog.mp member
  · have same := join_dot_inj.mp named
    exact ⟨same,by rw [same]⟩
  · rw [EventConfig.rename,join_slash_dot] at named
    have same := join_dot_inj.mp named
    rw [← same,toList_slash] at plain
    simp at plain

theorem fnLog_service {events : Dict Settings} {fn : String × Settings} {config : EventConfig}
    (member : config ∈ fnLog env serviceName events fn) : config.subType ≠ serviceName := by
  obtain ⟨_,rfl | ⟨other,_,_,rfl⟩⟩ := mem_fnLog.mp member
  · exact join_dot_ne _ _
  · rw [EventConfig.rename,join_slash_dot]
    exact join_dot_ne _ _

theorem handler_event {onHandlers : List String} {action sagaSuffix event : String} (plain : PlainAction action)
    (found : checkHandlerExists onHandlers action sagaSuffix = some event) :
    event = join "/" action sagaSuffix ∨ event = sagaSuffix := by
  have base : Saga.beforeSlash action = action := by
    rw [Saga.beforeSlash,List.takeWhile_eq_self_iff.mpr ?_,String.ofList_toList]
    intro char member
    have differ : char ≠ '/' := fun slash => plain.slashless (slash ▸ member)
    simpa using differ
  unfold checkHandlerExists at found
  simp only [base,ite_self] at found
  rcases Option.or_eq_some_iff.mp found with own | ⟨_,generic⟩
  · exact Or.inl (by simpa [join] using List.find?_some own)
  · exact Or.inr (by simpa using List.find?_some generic)

end

/-- The section of one service, and the map it is part of. -/
structure Queued (env : Environment) (serviceName : String) (events : Dict Settings) : Prop where
  listed : ∃ required settings, env.requires.get? serviceName = some required ∧
    required.config = some (.on settings events)

section
variable {env : Environment} {serviceName : String} {events : Dict Settings}

theorem configured_events (queued : Queued env serviceName events) (key : String) :
    configured env serviceName key = events.get? key := by
  obtain ⟨required,settings,found,config⟩ := queued.listed
  simp only [configured,sectionOf,found,Option.bind_some,config]

theorem alike_governed {subType : String} {config other : EventConfig} (alike : Alike config other) :
    Governed env subType config ↔ Governed env subType other := by
  unfold Governed
  simp only [alike_right alike]

theorem registrations_alone (queued : Queued env serviceName events) {subType : String}
    (alone : ∀ service ∈ env.requires.entries, service.1 ≠ serviceName →
      ∀ config ∈ serviceLog env service, config.subType ≠ subType) :
    (registrations env).filter (fun config => config.subType = subType) =
      (srvConfigOf env serviceName::events.entries.flatMap (fnLog env serviceName events)).filter
        (fun config => config.subType = subType) := by
  obtain ⟨required,settings,found,config⟩ := queued.listed
  have own : serviceLog env (serviceName,required) =
      srvConfigOf env serviceName::events.entries.flatMap (fnLog env serviceName events) := by
    simp only [serviceLog,config]
  rw [registrations,List.filter_flatMap,← own]
  refine Keyed.flatMap_only env.requires.nodup.of_map (Dict.mem_entries.mpr found) ?_
  intro other member differ
  have apart : other.1 ≠ serviceName := by
    intro same
    have value : env.requires.get? other.1 = some other.2 := Dict.mem_entries.mp member
    rw [same,found] at value
    exact differ (Prod.ext same (Option.some.inj value).symm)
  exact List.filter_eq_nil_iff.mpr (fun config inside => by simpa using alone other member apart config inside)

theorem governed_iff {subType : String} {governing config : EventConfig}
    (found : Keyed.governing EventConfig.key
      ((registrations env).filter (fun config => config.subType = subType)) = some governing) :
    Governed env subType config ↔ Alike governing config := by
  simp [Governed,found]

theorem section_filter {subType : String} (other : subType ≠ serviceName) :
    (srvConfigOf env serviceName::events.entries.flatMap (fnLog env serviceName events)).filter
        (fun config => config.subType = subType) =
      events.entries.flatMap (fun fn => (fnLog env serviceName events fn).filter (fun config => config.subType = subType)) := by
  have base : (srvConfigOf env serviceName).subType = serviceName := rfl
  rw [List.filter_cons,if_neg (by simpa [base] using other.symm),List.filter_flatMap]

/-- Every registration that a key lists for the subtype is this one. -/
structure Lists (env : Environment) (serviceName : String) (events : Dict Settings) (subType : String)
    (fn : String × Settings) (config : EventConfig) : Prop where
  member : config ∈ fnLog env serviceName events fn
  named : config.subType = subType
  only : ∀ other ∈ fnLog env serviceName events fn, other.subType = subType → other = config

theorem Lists.filter {subType : String} {fn : String × Settings} {config : EventConfig}
    (lists : Lists env serviceName events subType fn config) :
    (∀ other ∈ (fnLog env serviceName events fn).filter (fun config => config.subType = subType), other = config) ∧
      (fnLog env serviceName events fn).filter (fun config => config.subType = subType) ≠ [] := by
  constructor
  · intro other inside
    obtain ⟨member,named⟩ := List.mem_filter.mp inside
    exact lists.only other member (by simpa using named)
  · exact List.ne_nil_of_mem (List.mem_filter.mpr ⟨lists.member,by simpa using lists.named⟩)

theorem silent_filter {subType : String} {fn : String × Settings}
    (silent : ∀ config ∈ fnLog env serviceName events fn, config.subType ≠ subType) :
    (fnLog env serviceName events fn).filter (fun config => config.subType = subType) = [] :=
  List.filter_eq_nil_iff.mpr (fun config member => by simpa using silent config member)

section
variable {subType : String} (queued : Queued env serviceName events) (other : subType ≠ serviceName)
  (alone : ∀ service ∈ env.requires.entries, service.1 ≠ serviceName →
    ∀ config ∈ serviceLog env service, config.subType ≠ subType)
include queued other alone

theorem governing_none (silent : ∀ fn ∈ events.entries, ∀ config ∈ fnLog env serviceName events fn,
    config.subType ≠ subType) :
    Keyed.governing EventConfig.key ((registrations env).filter (fun config => config.subType = subType)) = none := by
  rw [registrations_alone queued alone,section_filter other,
    List.flatMap_eq_nil_iff.mpr (fun fn member => silent_filter (silent fn member))]
  rfl

theorem governing_single {fn : String × Settings} {config : EventConfig} (member : fn ∈ events.entries)
    (lists : Lists env serviceName events subType fn config)
    (silent : ∀ more ∈ events.entries, more ≠ fn → ∀ config ∈ fnLog env serviceName events more,
      config.subType ≠ subType) :
    Keyed.governing EventConfig.key ((registrations env).filter (fun config => config.subType = subType)) =
      some config := by
  rw [registrations_alone queued alone,section_filter other,Keyed.flatMap_only events.nodup.of_map member
    (fun more inside differ => silent_filter (silent more inside differ))]
  exact Keyed.governing_all EventConfig.key lists.filter.1 lists.filter.2

theorem governing_pair {first second : String × Settings} {one two : EventConfig}
    (order : [first,second].Sublist events.entries) (listsFirst : Lists env serviceName events subType first one)
    (listsSecond : Lists env serviceName events subType second two)
    (silent : ∀ more ∈ events.entries, more ≠ first → more ≠ second → ∀ config ∈ fnLog env serviceName events more,
      config.subType ≠ subType) :
    Keyed.governing EventConfig.key ((registrations env).filter (fun config => config.subType = subType)) =
      some (if two.key = one.key then two else one) := by
  rw [registrations_alone queued alone,section_filter other,Keyed.flatMap_pair events.nodup.of_map order
    (fun more inside notFirst notSecond => silent_filter (silent more inside notFirst notSecond))]
  exact Keyed.governing_append EventConfig.key listsFirst.filter.1 listsSecond.filter.1 listsFirst.filter.2
    listsSecond.filter.2

end

theorem governed_service (queued : Queued env serviceName events)
    (alone : ∀ service ∈ env.requires.entries, service.1 ≠ serviceName →
      ∀ config ∈ serviceLog env service, config.subType ≠ serviceName) (config : EventConfig) :
    Governed env serviceName config ↔ Alike (srvConfigOf env serviceName) config := by
  apply governed_iff
  have base : (srvConfigOf env serviceName).subType = serviceName := rfl
  have silent : (events.entries.flatMap (fnLog env serviceName events)).filter
      (fun config => config.subType = serviceName) = [] := by
    refine List.filter_eq_nil_iff.mpr (fun config inside => ?_)
    obtain ⟨fn,_,member⟩ := List.mem_flatMap.mp inside
    simpa using fnLog_service member
  rw [registrations_alone queued alone,List.filter_cons,if_pos (by simp [base]),silent]
  exact Keyed.governing_all EventConfig.key (fun other member => List.mem_singleton.mp member) (List.cons_ne_nil _ _)

theorem entry_unique {fn : String × Settings} {key : String} {settings : Settings}
    (present : events.get? key = some settings) (member : fn ∈ events.entries) (same : fn.1 = key) :
    fn = (key,settings) := by
  have value : events.get? fn.1 = some fn.2 := Dict.mem_entries.mp member
  rw [same,present] at value
  exact Prod.ext same (Option.some.inj value).symm

theorem key_absent {fn : String × Settings} {key : String} (absent : events.get? key = none)
    (member : fn ∈ events.entries) : fn.1 ≠ key := by
  intro same
  have value : events.get? fn.1 = some fn.2 := Dict.mem_entries.mp member
  rw [same,absent] at value
  cases value

theorem keys_order {first second : String} {one two : Settings} (firstPresent : events.get? first = some one)
    (secondPresent : events.get? second = some two) :
    [first,second].Sublist events.keys ↔ [(first,one),(second,two)].Sublist events.entries := by
  constructor
  · intro order
    obtain ⟨pair,inside,same⟩ := List.sublist_map_iff.mp order
    match pair with
    | [fn,more] =>
      simp only [List.map_cons,List.map_nil,List.cons.injEq,and_true] at same
      rw [← entry_unique firstPresent (inside.subset List.mem_cons_self) same.1.symm,
        ← entry_unique secondPresent (inside.subset (List.mem_cons_of_mem fn List.mem_cons_self)) same.2.symm]
      exact inside
  · intro order
    exact order.map Prod.fst

theorem lists_key {key : String} {settings : Settings} (plain : '/' ∉ key.toList)
    (adHoc : settings.isPeriodic = false) :
    Lists env serviceName events (join "." serviceName key) (key,settings) (configOf env serviceName key) :=
  ⟨mem_fnLog.mpr ⟨adHoc,Or.inl rfl⟩,rfl,fun _ inside named => (fnLog_plain plain inside named).2⟩

theorem governed_key (queued : Queued env serviceName events) {key : String} {settings : Settings}
    (plain : '/' ∉ key.toList) (present : events.get? key = some settings) (adHoc : settings.isPeriodic = false)
    (alone : ∀ service ∈ env.requires.entries, service.1 ≠ serviceName →
      ∀ config ∈ serviceLog env service, config.subType ≠ join "." serviceName key) (config : EventConfig) :
    Governed env (join "." serviceName key) config ↔ Alike (configOf env serviceName key) config := by
  apply governed_iff
  refine governing_single queued (join_dot_ne serviceName key) alone (Dict.mem_entries.mpr present)
    (lists_key plain adHoc) ?_
  intro more inside differ config member named
  exact differ (entry_unique present inside (fnLog_plain plain member named).1)

section
variable {action sagaSuffix : String} (listed : sagaSuffix ∈ sagaSuffixes)
include listed

theorem lists_successor {own : Settings} (adHoc : own.isPeriodic = false) :
    Lists env serviceName events (join "." serviceName (join "/" action sagaSuffix))
      (join "/" action sagaSuffix,own) (configOf env serviceName (join "/" action sagaSuffix)) := by
  refine ⟨mem_fnLog.mpr ⟨adHoc,Or.inl rfl⟩,rfl,fun other inside named => ?_⟩
  rcases fnLog_successor listed inside named with ⟨_,same⟩ | ⟨key,_,_⟩
  · exact same
  · exact absurd key (join_slash_ne action sagaSuffix)

theorem lists_inherited {settings : Settings} (adHoc : settings.isPeriodic = false)
    (absent : events.get? sagaSuffix = none) :
    Lists env serviceName events (join "." serviceName (join "/" action sagaSuffix)) (action,settings)
      ((configOf env serviceName action).rename (join "." serviceName (join "/" action sagaSuffix))) := by
  refine ⟨mem_fnLog.mpr ⟨adHoc,Or.inr ⟨sagaSuffix,listed,absent,by rw [join_slash_dot]⟩⟩,rfl,fun other inside named => ?_⟩
  rcases fnLog_successor listed inside named with ⟨key,_⟩ | ⟨_,_,same⟩
  · exact absurd key.symm (join_slash_ne action sagaSuffix)
  · exact same

theorem silent_successor {fn : String × Settings} (notOwn : fn.1 ≠ join "/" action sagaSuffix)
    (notInherited : fn.1 = action → events.get? sagaSuffix ≠ none) :
    ∀ config ∈ fnLog env serviceName events fn,
      config.subType ≠ join "." serviceName (join "/" action sagaSuffix) := by
  intro config member named
  rcases fnLog_successor listed member named with ⟨key,_⟩ | ⟨key,absent,_⟩
  · exact notOwn key
  · exact notInherited key absent

/-- Besides an action and its successor no key lists anything for the successor. -/
theorem silent_rest {own settings : Settings} (present : events.get? (join "/" action sagaSuffix) = some own)
    (actionPresent : events.get? action = some settings) :
    ∀ more ∈ events.entries, more ≠ (action,settings) → more ≠ (join "/" action sagaSuffix,own) →
      ∀ config ∈ fnLog env serviceName events more,
        config.subType ≠ join "." serviceName (join "/" action sagaSuffix) := by
  intro more inside notAction notOwn
  exact silent_successor listed (fun key => notOwn (entry_unique present inside key))
    (fun key => absurd (entry_unique actionPresent inside key) notAction)

variable (queued : Queued env serviceName events)
  (alone : ∀ service ∈ env.requires.entries, service.1 ≠ serviceName → ∀ config ∈ serviceLog env service,
    config.subType ≠ join "." serviceName (join "/" action sagaSuffix))
include queued alone

/-- The successor has a key and the action has none, or a generic key keeps the action away. -/
theorem governed_own {own : Settings} (present : events.get? (join "/" action sagaSuffix) = some own)
    (adHoc : own.isPeriodic = false)
    (away : events.get? action = none ∨ events.get? sagaSuffix ≠ none) (config : EventConfig) :
    Governed env (join "." serviceName (join "/" action sagaSuffix)) config ↔
      Alike (configOf env serviceName (join "/" action sagaSuffix)) config := by
  apply governed_iff
  refine governing_single queued (join_dot_ne _ _) alone (Dict.mem_entries.mpr present)
    (lists_successor listed adHoc) ?_
  intro more inside differ
  apply silent_successor listed (fun key => differ (entry_unique present inside key))
  exact fun key => away.resolve_left (fun absent => key_absent absent inside key)

/-- Only the action has a key: the successor inherits its configuration. -/
theorem governed_inherited {settings : Settings} (present : events.get? action = some settings)
    (adHoc : settings.isPeriodic = false) (noGeneric : events.get? sagaSuffix = none)
    (noOwn : events.get? (join "/" action sagaSuffix) = none) (config : EventConfig) :
    Governed env (join "." serviceName (join "/" action sagaSuffix)) config ↔
      Alike (configOf env serviceName action) config := by
  refine (governed_iff ?_).trans (alike_left (alike_rename _ (join "." serviceName (join "/" action sagaSuffix))))
  refine governing_single queued (join_dot_ne _ _) alone (Dict.mem_entries.mpr present)
    (lists_inherited listed adHoc noGeneric) ?_
  intro more inside differ
  exact silent_successor listed (key_absent noOwn inside)
    (fun key => absurd (entry_unique present inside key) differ)

/-- A generic key and no key of its own: the successor has no entry. -/
theorem not_governed (generic : events.get? sagaSuffix ≠ none)
    (noOwn : events.get? (join "/" action sagaSuffix) = none) (config : EventConfig) :
    ¬Governed env (join "." serviceName (join "/" action sagaSuffix)) config := by
  have none := governing_none queued (join_dot_ne _ _) alone
    (fun fn inside => silent_successor listed (key_absent noOwn inside) (fun _ => generic))
  simp [Governed,none]

/-- Both have keys: in one namespace the later key wins, in two the earlier one is found. -/
theorem governed_both {ownSettings settings : Settings}
    (present : events.get? (join "/" action sagaSuffix) = some ownSettings)
    (adHoc : ownSettings.isPeriodic = false) (actionPresent : events.get? action = some settings)
    (actionAdHoc : settings.isPeriodic = false) (noGeneric : events.get? sagaSuffix = none) :
    Governed env (join "." serviceName (join "/" action sagaSuffix))
        (configOf env serviceName (join "/" action sagaSuffix)) ↔
      InOrder env serviceName events action (join "/" action sagaSuffix) := by
  let own := configOf env serviceName (join "/" action sagaSuffix)
  let inherited := (configOf env serviceName action).rename (join "." serviceName (join "/" action sagaSuffix))
  have silent := @silent_rest env serviceName events action sagaSuffix listed ownSettings settings present actionPresent
  have apart := action_ne_successor action sagaSuffix settings ownSettings
  have sameKey : own.key = inherited.key ↔
      (configOf env serviceName action).nameSpace = (configOf env serviceName (join "/" action sagaSuffix)).nameSpace := by
    constructor
    · intro same
      exact (congrArg Prod.fst same).symm
    · intro same
      exact Prod.ext same.symm rfl
  unfold InOrder
  rw [keys_order actionPresent present,keys_order present actionPresent]
  rcases Keyed.pair_total (Dict.mem_entries.mpr actionPresent) (Dict.mem_entries.mpr present) apart with order | order
  · have governs : Governed env _ own ↔ _ := governed_iff (governing_pair queued (join_dot_ne _ _) alone order
      (lists_inherited listed actionAdHoc noGeneric) (lists_successor listed adHoc) silent)
    have reverse := Keyed.pair_asymm events.nodup.of_map order
    rw [governs]
    by_cases shared : (configOf env serviceName action).nameSpace =
        (configOf env serviceName (join "/" action sagaSuffix)).nameSpace
    · rw [if_pos shared,if_pos (sameKey.mpr shared)]
      exact iff_of_true ⟨rfl,rfl⟩ (Or.inl order)
    · rw [if_neg shared,if_neg (fun same => shared (sameKey.mp same))]
      exact iff_of_false (fun alike => shared alike.1) reverse
  · have governs : Governed env _ own ↔ _ := governed_iff (governing_pair queued (join_dot_ne _ _) alone order
      (lists_successor listed adHoc) (lists_inherited listed actionAdHoc noGeneric)
      (fun more inside notOwn notAction => silent more inside notAction notOwn))
    have reverse := Keyed.pair_asymm events.nodup.of_map order
    rw [governs]
    by_cases shared : (configOf env serviceName action).nameSpace =
        (configOf env serviceName (join "/" action sagaSuffix)).nameSpace
    · rw [if_pos shared,if_pos (sameKey.mpr shared).symm,or_iff_right reverse]
      exact alike_left (alike_rename _ _)
    · rw [if_neg shared,if_neg (fun same => shared (sameKey.mp same.symm))]
      exact iff_of_true ⟨rfl,rfl⟩ order

end

theorem contains_false {key : String} : events.contains key = false ↔ events.get? key = none := by
  rw [← Bool.not_eq_true,Dict.contains_iff,Option.isSome_iff_ne_none,not_not]

theorem get_of_contains {key : String} (present : events.contains key = true) :
    ∃ settings, events.get? key = some settings := Option.isSome_iff_exists.mp (Dict.contains_iff.mp present)

theorem wanted_own (queued : Queued env serviceName events) {action sagaSuffix : String} {own : Settings}
    (present : events.get? (join "/" action sagaSuffix) = some own) :
    Alike (configOf env serviceName (join "/" action sagaSuffix)) (wanted env serviceName action sagaSuffix) := by
  have found : configured env serviceName (join "/" action sagaSuffix) = some own := by
    rw [configured_events queued,present]
  rw [wanted,found,Option.some_or]
  exact alike_configOf (specific_configured found)

theorem wanted_generic (queued : Queued env serviceName events) {action sagaSuffix : String} {generic : Settings}
    (noOwn : events.get? (join "/" action sagaSuffix) = none) (present : events.get? sagaSuffix = some generic) :
    Alike (configOf env serviceName sagaSuffix) (wanted env serviceName action sagaSuffix) := by
  have found : configured env serviceName sagaSuffix = some generic := by rw [configured_events queued,present]
  rw [wanted,configured_events queued (join "/" action sagaSuffix),noOwn,Option.none_or,found,Option.some_or]
  exact alike_configOf (specific_configured found)

theorem wanted_action (queued : Queued env serviceName events) {action sagaSuffix : String}
    (plain : '/' ∉ action.toList) (noOwn : events.get? (join "/" action sagaSuffix) = none)
    (noGeneric : events.get? sagaSuffix = none) :
    Alike (configOf env serviceName action) (wanted env serviceName action sagaSuffix) := by
  rw [wanted,configured_events queued (join "/" action sagaSuffix),noOwn,Option.none_or,
    configured_events queued sagaSuffix,noGeneric,Option.none_or]
  exact alike_configOf (specific_plain plain)

theorem wanted_base (queued : Queued env serviceName events) {action sagaSuffix : String}
    (noOwn : events.get? (join "/" action sagaSuffix) = none) (noGeneric : events.get? sagaSuffix = none)
    (noAction : events.get? action = none) :
    Alike (srvConfigOf env serviceName) (wanted env serviceName action sagaSuffix) := by
  rw [wanted,configured_events queued (join "/" action sagaSuffix),noOwn,Option.none_or,
    configured_events queued sagaSuffix,noGeneric,Option.none_or,configured_events queued action,noAction]
  exact alike_base

theorem chosen_specific {event : String} (found : (getCdsOutboxEventSpecificConfig env serviceName event).isSome = true) :
    chosenSubType env serviceName event = join "." serviceName event := if_pos found

theorem chosen_service {event : String} (missing : getCdsOutboxEventSpecificConfig env serviceName event = none) :
    chosenSubType env serviceName event = serviceName := if_neg (by simp [missing])

section
variable {action sagaSuffix : String} (queued : Queued env serviceName events) (listed : sagaSuffix ∈ sagaSuffixes)
include queued listed

theorem decides_generic (regular : Regular env serviceName action sagaSuffix (chosenSubType env serviceName sagaSuffix)) :
    Governed env (chosenSubType env serviceName sagaSuffix) (wanted env serviceName action sagaSuffix) ↔
      Decides env serviceName events action sagaSuffix sagaSuffix := by
  have differ : sagaSuffix ≠ join "/" action sagaSuffix := by
    intro same
    apply slash_suffix listed
    rw [same,toList_slash]
    simp
  have specific := @specific_plain env serviceName _ (slash_suffix listed)
  rw [configured_events queued] at specific
  unfold Decides
  simp only [if_neg differ]
  by_cases present : events.contains sagaSuffix = true
  · obtain ⟨generic,found⟩ := get_of_contains present
    have chosen := chosen_specific (by rw [specific,found]; rfl)
    rw [chosen] at regular ⊢
    rw [if_pos present]
    have adHoc := regular.adHoc sagaSuffix (by simp) generic (by rw [configured_events queued,found])
    exact governed_key queued (slash_suffix listed) found adHoc regular.alone _
  · have absent := contains_false.mp (by simpa using present)
    have chosen := chosen_service (by rw [specific,absent]; rfl)
    rw [chosen] at regular ⊢
    rw [if_neg present]
    exact governed_service queued regular.alone _

theorem decides_successor (plain : PlainAction action) (regular : Regular env serviceName action sagaSuffix
      (chosenSubType env serviceName (join "/" action sagaSuffix))) :
    Governed env (chosenSubType env serviceName (join "/" action sagaSuffix)) (wanted env serviceName action sagaSuffix) ↔
      Decides env serviceName events action sagaSuffix (join "/" action sagaSuffix) := by
  have specific := @specific_successor env serviceName _ _ plain.slashless listed
  rw [configured_events queued,configured_events queued] at specific
  have adHoc : ∀ key ∈ [action,sagaSuffix,join "/" action sagaSuffix], ∀ settings, events.get? key = some settings →
      settings.isPeriodic = false :=
    fun key inside settings found => regular.adHoc key inside settings (by rw [configured_events queued,found])
  unfold Decides
  simp only [if_true]
  cases own : events.get? (join "/" action sagaSuffix) with
  | some ownSettings =>
    have chosen := chosen_specific (by rw [specific,own]; rfl)
    rw [chosen] at regular ⊢
    have ownAdHoc := adHoc _ (by simp) ownSettings own
    rw [if_pos (Dict.contains_iff.mpr (by simp [own])),← alike_governed (wanted_own queued own)]
    cases found : events.get? action with
    | none =>
      refine iff_of_true ((governed_own listed queued regular.alone own ownAdHoc (Or.inl found) _).mpr ⟨rfl,rfl⟩) ?_
      intro present
      rw [contains_false.mpr found] at present
      cases present
    | some settings =>
      cases generic : events.get? sagaSuffix with
      | some genericSettings =>
        refine iff_of_true ((governed_own listed queued regular.alone own ownAdHoc
          (Or.inr (by simp [generic])) _).mpr ⟨rfl,rfl⟩) ?_
        intro _ absent
        rw [contains_false.mp absent] at generic
        cases generic
      | none =>
        rw [governed_both listed queued regular.alone own ownAdHoc found (adHoc _ (by simp) settings found) generic]
        have actionPresent := Dict.contains_iff.mpr (by simp [found] : (events.get? action).isSome)
        exact ⟨fun order _ _ => order,fun order => order actionPresent (contains_false.mpr generic)⟩
  | none =>
    rw [if_neg (by simp [contains_false.mpr own])]
    cases found : events.get? action with
    | none =>
      have chosen := chosen_service (by rw [specific,own,found]; rfl)
      rw [chosen] at regular ⊢
      rw [governed_service queued regular.alone]
      cases generic : events.get? sagaSuffix with
      | none =>
        refine iff_of_true (wanted_base queued own generic found) ?_
        intro present
        rw [contains_false.mpr generic] at present
        cases present
      | some genericSettings =>
        rw [← alike_right (wanted_generic queued own generic)]
        have present := Dict.contains_iff.mpr (by simp [generic] : (events.get? sagaSuffix).isSome)
        exact ⟨fun alike _ => ⟨contains_false.mpr found,alike⟩,fun decides => (decides present).2⟩
    | some settings =>
      have chosen := chosen_specific (by rw [specific,own,found]; rfl)
      rw [chosen] at regular ⊢
      have actionAdHoc := adHoc _ (by simp) settings found
      cases generic : events.get? sagaSuffix with
      | none =>
        rw [governed_inherited listed queued regular.alone found actionAdHoc generic own]
        refine iff_of_true (wanted_action queued plain.slashless own generic) ?_
        intro present
        rw [contains_false.mpr generic] at present
        cases present
      | some genericSettings =>
        refine iff_of_false (not_governed listed queued regular.alone (by simp [generic]) own _) ?_
        intro decides
        have present := Dict.contains_iff.mpr (by simp [generic] : (events.get? sagaSuffix).isSome)
        have absent := contains_false.mp (decides present).1
        rw [found] at absent
        cases absent

end

/-- The precedence holds of the published successors exactly where it is decided that way. -/
theorem precedence_iff {eventMap : List EventConfig} (queued : Queued env serviceName events)
    (built : eventMapFromEnv env = .ok eventMap) (onHandlers : List String) :
    Precedence env serviceName onHandlers eventMap ↔ Decided env serviceName onHandlers events := by
  unfold Precedence Decided
  refine forall_congr' (fun action => forall_congr' (fun plain => forall_congr' (fun sagaSuffix =>
    forall_congr' (fun listed => forall_congr' (fun event => forall_congr' (fun handled => ?_))))))
  rw [processed_governed built]
  by_cases regular : Regular env serviceName action sagaSuffix (chosenSubType env serviceName event)
  · have decides : Governed env (chosenSubType env serviceName event) (wanted env serviceName action sagaSuffix) ↔
        Decides env serviceName events action sagaSuffix event := by
      rcases handler_event plain handled with rfl | rfl
      · exact decides_successor queued listed plain regular
      · exact decides_generic queued listed regular
    rw [decides]
    exact ⟨fun holds => ⟨fun _ => holds,fun irregular => absurd regular irregular⟩,fun given => given.1 regular⟩
  · exact ⟨fun holds => ⟨fun given => absurd given regular,fun _ => holds⟩,fun given => given.2 regular⟩

end

end EventQueue.OutboxConfig
