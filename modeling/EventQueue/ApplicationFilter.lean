import EventQueue.Lib.Dict
import Mathlib.Data.List.Sort
import Mathlib.Tactic

/-! `shouldBeProcessedInThisApplication`: the names of an event are plain or literals of regular expressions.
The expressions are built once and keep their `lastIndex`; the names are properties of an ordinary object. -/
namespace EventQueue.ApplicationFilter

/-- The end of the match of a compiled pattern at an index of the text, counted in UTF-16 code units. -/
abbrev Matcher := String → Nat → Option Nat

structure RegExp where
  matcher : Matcher
  global : Bool
  sticky : Bool
  unicode : Bool

/-- The code units of a text: whether each is the second one of its character. -/
def units (text : String) : List Bool :=
  text.toList.flatMap (fun character => if 65536 ≤ character.toNat then [false,true] else [false])

namespace RegExp

def stateful (expression : RegExp) : Bool := expression.global || expression.sticky

/-- The indices a search tries from a start on, in their order. -/
def candidates (expression : RegExp) (text : String) (start : Nat) : List Nat :=
  (List.range ((units text).length + 1)).filter (fun index =>
    if expression.sticky then index == start
    else decide (start < index) && !(expression.unicode && ((units text)[index]?.getD false)) || index == start)

def search (expression : RegExp) (text : String) (start : Nat) : Option Nat :=
  (expression.candidates text start).findSome? (expression.matcher text)

/-- The answer and the `lastIndex` afterwards; only global and sticky expressions read and write it. -/
def test (expression : RegExp) (lastIndex : Nat) (text : String) : Bool × Nat :=
  match expression.search text (if expression.stateful then lastIndex else 0) with
  | some stop => (true,if expression.stateful then stop else lastIndex)
  | none => (false,if expression.stateful then 0 else lastIndex)

end RegExp

/-- The source up to the slash that closes a literal, and what follows it: `((?:\\.|[^\\/])*)\/`. -/
def closing : List Char → Option (List Char × List Char)
  | [] => none
  | '/'::rest => some ([],rest)
  | ['\\'] => none
  | '\\'::character::rest =>
    -- a dot matches no line terminator
    if character.toNat ∈ [10,13,8232,8233] then none
    else (closing rest).map (fun parts => ('\\'::character::parts.1,parts.2))
  | character::rest => (closing rest).map (fun parts => (character::parts.1,parts.2))

/-- `regexLiteralPattern`: source and flags of a literal. -/
def literal (text : String) : Option (String × List Char) :=
  match text.toList with
  | '/'::rest => (closing rest).bind (fun parts =>
    if parts.2.all (fun flag => "gimsuy".toList.contains flag) then some (String.ofList parts.1,parts.2) else none)
  | _ => none

inductive AppName
  | regex (value : RegExp)
  | string (value : String)

/-- The names of the properties an object has from its prototype. -/
def objectPrototype : List String :=
  ["__defineGetter__","__defineSetter__","__lookupGetter__","__lookupSetter__","__proto__","constructor",
    "hasOwnProperty","isPrototypeOf","propertyIsEnumerable","toLocaleString","toString","valueOf"]

/-- A number of JavaScript, without infinities; none is NaN. -/
abbrev Number := Option Rat

structure EventConfig where
  appNames : Option (List String)
  appInstances : Option (List Number)

structure Call where
  applicationName : String
  applicationInstance : Number

/-- The `lastIndex` of the expression under each name. -/
abbrev State := String → Nat

def State.initial : State := fun _ => 0

/-- The keys of array elements: decimal numbers without leading zeros. -/
def arrayIndex (key : String) : Option Nat :=
  let digits := key.toList
  let index := digits.foldl (fun value digit => 10 * value + (digit.toNat - 48)) 0
  if digits ≠ [] ∧ digits.all Char.isDigit ∧ (digits.head? = some '0' → digits.length = 1) ∧ index < 4294967295 then
    some index
  else none

/-- The order of `for in`: array indices ascending, then the other keys as they were set. -/
def enumerated {α : Type} (dict : Dict α) : List (String × α) :=
  (dict.entries.filter (fun entry => (arrayIndex entry.1).isSome)).insertionSort
      (fun first second => (arrayIndex first.1).getD 0 ≤ (arrayIndex second.1).getD 0) ++
    dict.entries.filter (fun entry => (arrayIndex entry.1).isNone)

/-- A property is found, also one of the prototype: none of them is falsy. -/
def found {α : Type} (dict : Dict α) (name : String) : Bool := dict.contains name || objectPrototype.contains name

section
-- the matcher for a source under its flags; none if the source is no pattern
variable (compile : String → List Char → Option Matcher)

/-- `new RegExp`; none if it throws. -/
def newRegExp (source : String) (flags : List Char) : Option RegExp :=
  if flags.Nodup then (compile source flags).map (fun matcher =>
    ⟨matcher,flags.contains 'g',flags.contains 'y',flags.contains 'u'⟩)
  else none

def parseRegexOrString (str : String) : AppName :=
  match literal str with
  | some (source,flags) =>
    match newRegExp compile source flags with
    | some value => .regex value
    | none => .string str
  | none => .string str

def isRegex (name : String) : Bool :=
  match parseRegexOrString compile name with
  | .regex _ => true
  | .string _ => false

def appNameMap (appNames : List String) : Dict AppName :=
  appNames.foldl (fun map name => map.set name (parseRegexOrString compile name)) Dict.empty

def appNameContainsRegex (appNames : List String) : Bool := appNames.any (isRegex compile)

/-- What one entry says, and the `lastIndex` of its expression afterwards. A plain name is not compared:
the application's name is looked up. -/
def evaluate (map : Dict AppName) (applicationName : String) (state : State) (entry : String × AppName) : Bool × State :=
  match entry.2 with
  | .regex value =>
    let (result,lastIndex) := value.test (state entry.1) applicationName
    (result,Function.update state entry.1 lastIndex)
  | .string _ => (found map applicationName,state)

/-- The loop over the names ends at the first one that fits. -/
def evaluateAll (map : Dict AppName) (applicationName : String) : State → List (String × AppName) → Bool × State
  | state,[] => (false,state)
  | state,entry::rest =>
    let (result,next) := evaluate map applicationName state entry
    if result then (true,next) else evaluateAll map applicationName next rest

def nameFits (appNames : List String) (state : State) (applicationName : String) : Bool × State :=
  let map := appNameMap compile appNames
  if appNameContainsRegex compile appNames then evaluateAll map applicationName state (enumerated map)
  else (found map applicationName,state)

def instanceFits (event : EventConfig) (applicationInstance : Number) : Bool :=
  event.appInstances.all (fun instances => instances.contains applicationInstance)

def shouldBeProcessedInThisApplication (event : EventConfig) (state : State) (call : Call) : Bool × State :=
  match event.appNames with
  | none => (instanceFits event call.applicationInstance,state)
  | some appNames =>
    let (result,next) := nameFits compile appNames state call.applicationName
    (result && instanceFits event call.applicationInstance,next)

/-- The answers to calls one after the other. -/
def answers (event : EventConfig) : State → List Call → List Bool
  | _,[] => []
  | state,call::rest =>
    let (result,next) := shouldBeProcessedInThisApplication compile event state call
    result::answers event next rest

/-- As documented: an expression is tested as if it was new, and a plain name has to be equal. -/
def fits (applicationName name : String) : Bool :=
  match parseRegexOrString compile name with
  | .regex value => (value.test 0 applicationName).1
  | .string value => value == applicationName

def rule (event : EventConfig) (call : Call) : Bool :=
  event.appNames.all (fun appNames => appNames.any (fits compile call.applicationName)) &&
    event.appInstances.all (fun instances => instances.contains call.applicationInstance)

def PlainName (appNames : List String) (name : String) : Prop := name ∈ appNames ∧ isRegex compile name = false

/-- Some expression matches when the searches start where `lastIndex` says. -/
def Matched (appNames : List String) (lastIndex : State) (applicationName : String) : Prop :=
  ∃ name ∈ appNames, ∃ value, parseRegexOrString compile name = .regex value ∧
    (value.search applicationName (if value.stateful then lastIndex name else 0)).isSome

/-- The application's name is looked up, and it is a property of the prototype or the text of a literal. -/
def Mistaken (appNames : List String) (applicationName : String) : Prop :=
  (applicationName ∈ objectPrototype ∨ applicationName ∈ appNames) ∧
    ((∃ name, PlainName compile appNames name) ∨ appNameContainsRegex compile appNames = false)

/-- Where the instance is listed and no plain name is the application's: a name that is found by mistake has
to match an expression, and otherwise the searches from `lastIndex` on must do as well as those from the start. -/
def Met (event : EventConfig) (state : State) (call : Call) : Prop :=
  ∀ appNames, event.appNames = some appNames → instanceFits event call.applicationInstance = true →
    ¬PlainName compile appNames call.applicationName →
      (Mistaken compile appNames call.applicationName →
        Matched compile appNames State.initial call.applicationName) ∧
      (¬Mistaken compile appNames call.applicationName →
        (Matched compile appNames state call.applicationName ↔
          Matched compile appNames State.initial call.applicationName))

def AllMet (event : EventConfig) : State → List Call → Prop
  | _,[] => True
  | state,call::rest => Met compile event state call ∧
    AllMet event (shouldBeProcessedInThisApplication compile event state call).2 rest

end

section
variable {compile : String → List Char → Option Matcher}

theorem test_answer (value : RegExp) (lastIndex : Nat) (text : String) :
    (value.test lastIndex text).1 = (value.search text (if value.stateful then lastIndex else 0)).isSome := by
  unfold RegExp.test
  cases value.search text (if value.stateful then lastIndex else 0) <;> rfl

theorem mem_enumerated {α : Type} {dict : Dict α} {entry : String × α} :
    entry ∈ enumerated dict ↔ dict.get? entry.1 = some entry.2 := by
  rw [← Dict.mem_entries]
  unfold enumerated
  rw [List.mem_append,List.mem_insertionSort,List.mem_filter,List.mem_filter,← and_or_left,← Option.not_isSome]
  cases (arrayIndex entry.1).isSome <;> simp

theorem enumerated_nodup {α : Type} (dict : Dict α) : ((enumerated dict).map Prod.fst).Nodup := by
  unfold enumerated
  have sorted := (List.perm_insertionSort
    (fun first second : String × α => (arrayIndex first.1).getD 0 ≤ (arrayIndex second.1).getD 0)
      (dict.entries.filter (fun entry => (arrayIndex entry.1).isSome))).append_right
      (dict.entries.filter (fun entry => (arrayIndex entry.1).isNone))
  have split := List.filter_append_perm (fun entry => (arrayIndex entry.1).isSome) dict.entries
  simp only [Option.not_isSome] at split
  exact (((sorted.trans split).map Prod.fst).nodup_iff).mpr dict.nodup

theorem get?_appNameMap (appNames : List String) (name : String) :
    (appNameMap compile appNames).get? name =
      if name ∈ appNames then some (parseRegexOrString compile name) else none := by
  have folded (map : Dict AppName) : (appNames.foldl (fun map name => map.set name (parseRegexOrString compile name)) map).get? name =
      if name ∈ appNames then some (parseRegexOrString compile name) else map.get? name := by
    induction appNames generalizing map with
    | nil => rfl
    | cons first rest ih =>
      rw [List.foldl_cons,ih,Dict.get?_set]
      by_cases same : name = first
      · simp [same]
      · simp [same]
  exact folded Dict.empty

theorem found_appNameMap (appNames : List String) (applicationName : String) :
    found (appNameMap compile appNames) applicationName = true ↔
      applicationName ∈ objectPrototype ∨ applicationName ∈ appNames := by
  rw [found,Bool.or_eq_true,Dict.contains_iff,get?_appNameMap,List.contains_iff_mem]
  split <;> simp [*]

theorem evaluate_regex (map : Dict AppName) (applicationName : String) (state : State) (name : String) (value : RegExp) :
    (evaluate map applicationName state (name,.regex value)).1 =
      (value.search applicationName (if value.stateful then state name else 0)).isSome := by
  rw [← test_answer]
  rfl

theorem evaluate_string (map : Dict AppName) (applicationName : String) (state : State) (name text : String) :
    (evaluate map applicationName state (name,.string text)).1 = found map applicationName := rfl

theorem evaluate_other {map : Dict AppName} {applicationName : String} {state : State} {entry : String × AppName}
    {name : String} (other : name ≠ entry.1) : (evaluate map applicationName state entry).2 name = state name := by
  unfold evaluate
  split
  · exact Function.update_of_ne other _ _
  · rfl

theorem evaluate_congr {map : Dict AppName} {applicationName : String} {state other : State} {entry : String × AppName}
    (same : state entry.1 = other entry.1) :
    (evaluate map applicationName state entry).1 = (evaluate map applicationName other entry).1 := by
  unfold evaluate
  split
  · rw [same]
  · rfl

/-- An entry is asked once: what the others do to their expressions does not matter to it. -/
theorem evaluateAll_answer (map : Dict AppName) (applicationName : String) (state : State)
    (entries : List (String × AppName)) (distinct : (entries.map Prod.fst).Nodup) :
    (evaluateAll map applicationName state entries).1 =
      entries.any (fun entry => (evaluate map applicationName state entry).1) := by
  induction entries generalizing state with
  | nil => rfl
  | cons entry rest ih =>
    rw [List.map_cons,List.nodup_cons] at distinct
    rw [List.any_cons,evaluateAll]
    cases fits : (evaluate map applicationName state entry).1 with
    | true => simp [fits]
    | false =>
      simp only [fits,Bool.false_eq_true,if_false,Bool.false_or]
      rw [ih _ distinct.2]
      rw [Bool.eq_iff_iff,List.any_eq_true,List.any_eq_true]
      refine exists_congr (fun later => and_congr_right (fun member => ?_))
      rw [evaluate_congr]
      apply evaluate_other
      intro same
      exact distinct.1 (same ▸ List.mem_map_of_mem member)

theorem parse_string {name text : String} (plain : parseRegexOrString compile name = .string text) : text = name := by
  unfold parseRegexOrString at plain
  split at plain
  · split at plain
    · cases plain
    · exact (AppName.string.inj plain).symm
  · exact (AppName.string.inj plain).symm

theorem isRegex_iff {name : String} :
    isRegex compile name = true ↔ ∃ value, parseRegexOrString compile name = .regex value := by
  unfold isRegex
  cases parseRegexOrString compile name <;> simp

theorem plainName_iff {appNames : List String} {name : String} :
    PlainName compile appNames name ↔ name ∈ appNames ∧ parseRegexOrString compile name = .string name := by
  refine and_congr_right (fun _ => ?_)
  unfold isRegex
  cases parsed : parseRegexOrString compile name with
  | regex value => simp
  | string text => simp [parse_string parsed]

theorem mem_enumerated_names (appNames : List String) (entry : String × AppName) :
    entry ∈ enumerated (appNameMap compile appNames) ↔ entry.1 ∈ appNames ∧ parseRegexOrString compile entry.1 = entry.2 := by
  rw [mem_enumerated,get?_appNameMap]
  split <;> simp [*]

theorem mixed_answer (appNames : List String) (state : State) (applicationName : String) :
    (evaluateAll (appNameMap compile appNames) applicationName state (enumerated (appNameMap compile appNames))).1 = true ↔
      Matched compile appNames state applicationName ∨
        (∃ name, PlainName compile appNames name) ∧ (applicationName ∈ objectPrototype ∨ applicationName ∈ appNames) := by
  rw [evaluateAll_answer _ _ _ _ (enumerated_nodup _),List.any_eq_true]
  constructor
  · rintro ⟨⟨name,parsed⟩,member,fits⟩
    obtain ⟨listed,parse⟩ := (mem_enumerated_names appNames _).mp member
    cases parsed with
    | regex value =>
      rw [evaluate_regex] at fits
      exact Or.inl ⟨name,listed,value,parse,fits⟩
    | string text =>
      rw [evaluate_string] at fits
      obtain rfl := parse_string parse
      exact Or.inr ⟨⟨text,plainName_iff.mpr ⟨listed,parse⟩⟩,(found_appNameMap appNames applicationName).mp fits⟩
  · rintro (⟨name,listed,value,parse,matched⟩ | ⟨⟨name,plain⟩,known⟩)
    · refine ⟨(name,.regex value),(mem_enumerated_names appNames _).mpr ⟨listed,parse⟩,?_⟩
      rw [evaluate_regex]
      exact matched
    · obtain ⟨listed,parse⟩ := plainName_iff.mp plain
      refine ⟨(name,.string name),(mem_enumerated_names appNames _).mpr ⟨listed,parse⟩,?_⟩
      rw [evaluate_string]
      exact (found_appNameMap appNames applicationName).mpr known

theorem nameFits_answer (appNames : List String) (state : State) (applicationName : String) :
    (nameFits compile appNames state applicationName).1 = true ↔
      Matched compile appNames state applicationName ∨
        (applicationName ∈ objectPrototype ∨ applicationName ∈ appNames) ∧
          ((∃ name, PlainName compile appNames name) ∨ appNameContainsRegex compile appNames = false) := by
  unfold nameFits
  cases mixed : appNameContainsRegex compile appNames with
  | true =>
    simp only [if_true,mixed_answer,Bool.true_eq_false,or_false]
    rw [and_comm]
  | false =>
    have unmatched : ¬Matched compile appNames state applicationName := by
      rintro ⟨name,listed,value,parse,-⟩
      have regex : appNameContainsRegex compile appNames = true :=
        List.any_eq_true.mpr ⟨name,listed,isRegex_iff.mpr ⟨value,parse⟩⟩
      rw [mixed] at regex
      cases regex
    simp [found_appNameMap,unmatched]

theorem fits_answer (appNames : List String) (applicationName : String) :
    appNames.any (fits compile applicationName) = true ↔
      Matched compile appNames State.initial applicationName ∨ PlainName compile appNames applicationName := by
  rw [List.any_eq_true]
  constructor
  · rintro ⟨name,listed,fit⟩
    unfold fits at fit
    cases parse : parseRegexOrString compile name with
    | regex value =>
      rw [parse] at fit
      refine Or.inl ⟨name,listed,value,parse,?_⟩
      rw [← test_answer]
      exact fit
    | string text =>
      rw [parse] at fit
      obtain rfl : text = applicationName := by simpa using fit
      obtain rfl := parse_string parse
      exact Or.inr (plainName_iff.mpr ⟨listed,parse⟩)
  · rintro (⟨name,listed,value,parse,matched⟩ | plain)
    · refine ⟨name,listed,?_⟩
      rw [← test_answer] at matched
      simpa [fits,parse,State.initial] using matched
    · obtain ⟨listed,parse⟩ := plainName_iff.mp plain
      exact ⟨applicationName,listed,by simp [fits,parse]⟩

/-- One call answers as documented exactly under its condition. -/
theorem answer_iff (event : EventConfig) (state : State) (call : Call) :
    (shouldBeProcessedInThisApplication compile event state call).1 = rule compile event call ↔
      Met compile event state call := by
  unfold shouldBeProcessedInThisApplication rule Met
  cases given : event.appNames with
  | none => simp [instanceFits]
  | some appNames =>
    have code := @nameFits_answer compile appNames state call.applicationName
    have declared := @fits_answer compile appNames call.applicationName
    have listed : event.appInstances.all (fun instances => instances.contains call.applicationInstance) =
        instanceFits event call.applicationInstance := rfl
    simp only [Option.all_some,Option.some.injEq,forall_eq',listed]
    cases instanceFits event call.applicationInstance with
    | false => simp
    | true =>
      rw [Bool.and_true,Bool.and_true,Bool.eq_iff_iff,code,declared]
      have own : PlainName compile appNames call.applicationName →
          (∃ name, PlainName compile appNames name) ∧ call.applicationName ∈ appNames := fun plain => ⟨⟨_,plain⟩,plain.1⟩
      by_cases plain : PlainName compile appNames call.applicationName
      · obtain ⟨looked,listed⟩ := own plain
        simp [plain,looked,listed]
      · by_cases mistaken : Mistaken compile appNames call.applicationName
        · have known := mistaken
          unfold Mistaken at known
          simp [plain,mistaken,known]
        · have unknown := mistaken
          unfold Mistaken at unknown
          simp [plain,mistaken,unknown]

theorem answers_iff (event : EventConfig) (state : State) (calls : List Call) :
    answers compile event state calls = calls.map (rule compile event) ↔ AllMet compile event state calls := by
  induction calls generalizing state with
  | nil => simp [answers,AllMet]
  | cons call rest ih => simp only [answers,List.map_cons,List.cons.injEq,AllMet,answer_iff,ih]

/-- The same names in another order. -/
def Reordered (event other : EventConfig) : Prop :=
  Option.Rel List.Perm event.appNames other.appNames ∧ other.appInstances = event.appInstances

theorem rule_reordered {event other : EventConfig} (reordered : Reordered event other) (call : Call) :
    rule compile other call = rule compile event call := by
  obtain ⟨names,instances⟩ := reordered
  unfold rule
  rw [instances]
  congr 1
  generalize event.appNames = first,other.appNames = second at names
  cases names with
  | none => rfl
  | some permuted => exact permuted.symm.any_eq

/-- Expressions without the flags g and y search from the start every time. -/
theorem matched_stateless {appNames : List String}
    (stateless : ∀ name ∈ appNames, ∀ value, parseRegexOrString compile name = .regex value → value.stateful = false)
    (state : State) (applicationName : String) :
    Matched compile appNames state applicationName ↔ Matched compile appNames State.initial applicationName := by
  have start (one other : State) (matched : Matched compile appNames one applicationName) :
      Matched compile appNames other applicationName := by
    obtain ⟨name,listed,value,parse,hit⟩ := matched
    refine ⟨name,listed,value,parse,?_⟩
    simpa [stateless name listed value parse] using hit
  exact ⟨start state State.initial,start State.initial state⟩

theorem allMet_stateless {event : EventConfig} (calls : List Call)
    (stateless : ∀ appNames, event.appNames = some appNames → ∀ name ∈ appNames, ∀ value,
      parseRegexOrString compile name = .regex value → value.stateful = false)
    (told : ∀ appNames, event.appNames = some appNames → ∀ call ∈ calls,
      ¬Mistaken compile appNames call.applicationName) (state : State) : AllMet compile event state calls := by
  induction calls generalizing state with
  | nil => trivial
  | cons call rest ih =>
    refine ⟨fun appNames given _ _ => ⟨fun mistaken => ?_,fun _ => ?_⟩,?_⟩
    · exact absurd mistaken (told appNames given call (List.mem_cons_self ..))
    · exact matched_stateless (stateless appNames given) state call.applicationName
    · exact ih (fun appNames given other member => told appNames given other (List.mem_cons_of_mem _ member)) _

end

theorem application_filter_iff (compile : String → List Char → Option Matcher) (event : EventConfig) (calls : List Call) :
    (∀ other, Reordered event other → answers compile other State.initial calls = calls.map (rule compile event)) ↔
      ∀ other, Reordered event other → AllMet compile other State.initial calls := by
  refine forall₂_congr (fun other reordered => ?_)
  have same : calls.map (rule compile event) = calls.map (rule compile other) :=
    List.map_congr_left (fun call _ => (rule_reordered reordered call).symm)
  rw [same]
  exact answers_iff other State.initial calls

/-- Sources of letters, digits and hyphens, without regard to flags other than g and y. -/
def plainSource (source : String) (_flags : List Char) : Option Matcher :=
  if source.toList.all (fun character => character.isAlphanum || character == '-') then some (fun text index =>
    if source.toList.isPrefixOf (text.toList.drop index) then some (index + source.length) else none)
  else none

def globalName : EventConfig := ⟨some ["/srv/g"],none⟩

def secondCallRefused : List Call := [⟨"srv",some 0⟩,⟨"srv",some 0⟩]

theorem global_name_alternates :
    ¬∀ other, Reordered globalName other →
      answers plainSource other State.initial secondCallRefused = secondCallRefused.map (rule plainSource globalName) := by
  intro claimed
  have own := claimed globalName ⟨Option.Rel.some (List.Perm.refl _),rfl⟩
  revert own
  decide +kernel

end EventQueue.ApplicationFilter
