import ConfigBinding.Binding.PropertyLoader
import ConfigBinding.Proofs.Binding.Steps
import ConfigBinding.Proofs.Files.Siblings
import ConfigBinding.Proofs.Types.Texts

/-!
# Binds that fail

A bind stops at the first field that cannot be bound. What came before it has been done, field by
field, and nothing after it is: no further field is bound, nothing is called after the sync and
nothing is saved.

* `BindError.site?`: the field that an error names;
* `Run.exists_split_of_failure`: where a run of steps has stopped;
* `StoreStep.AllBind`, `PropertyField.Binds`: fields that are bound, with the calls that are made;
* `StoreField.Fails`, `PropertyField.Fails`: a field that cannot be bound;
* `StoreLoader.StopsAt`, `PropertyLoader.StopsAt`: binds up to such a field;
* `failed_bind_stops_and_saves_nothing`: every way to bind.
-/

namespace ConfigBinding

/-- The field that an error names, by its place in a store or by its property key. A failure to
    load or save names none. -/
def BindError.site? : BindError → Option String
  | .parse error => some error.key
  | .unbound site => some site
  | .value site _ => some site
  | .store _ => none

/-! ## Where a run stops -/

theorem Run.exists_split_of_failure {σ α : Type} {step : α → σ → Run σ} {items : List α} {state : σ}
    {error : BindError} (failed : (forEach step items state).failure = some error) :
    ∃ before item after, items = before ++ item :: after ∧
      let reached := forEach step before state
      let last := step item reached.state
      reached.failure = none ∧ last.failure = some error ∧
        forEach step items state = { last with calls := reached.calls ++ last.calls } := by
  induction items generalizing state with
  | nil => cases failed
  | cons item rest inductionHypothesis =>
    cases outcome : (step item state).failure with
    | some first =>
      have stopped : forEach step (item :: rest) state = step item state :=
        andThen_of_failure outcome _
      rw [stopped] at failed ⊢
      exact ⟨[], item, rest, rfl, rfl, failed, rfl⟩
    | none =>
      have goesOn (others : List α) := andThen_of_success outcome (forEach step others)
      rw [forEach, goesOn] at failed
      obtain ⟨before, last, after, rfl, reached, isLast, run⟩ := inductionHypothesis failed
      refine ⟨item :: before, last, after, rfl, ?_⟩
      simp only [forEach, goesOn]
      refine ⟨reached, isLast, ?_⟩
      rw [run, List.append_assoc]

/-! ## One assignment -/

/-- Whether a value can be assigned, by this call. -/
inductive Assigns : Option Setter → Value → Call → Prop where
  | intro {setter : Setter} {value : Value} (accepted : setter.accept value = .ok ()) :
      Assigns (some setter) value (.set setter value)

/-- Whether a value cannot be assigned to the field at a site, after these calls. -/
inductive FailsToAssign (site : String) :
    Option Setter → Value → BindError → List Call → Prop where
  | unbound {value : Value} : FailsToAssign site none value (.unbound site) []
  | refused {setter : Setter} {value : Value} {error : ShapeError}
      (refused : setter.accept value = .error error) :
      FailsToAssign site (some setter) value (.value site error) [.set setter value]

section Call

variable {σ : Type} {setter : Option Setter} {site : String} {value : Value} {state : σ}

theorem FailsToAssign.names {error : BindError} {calls : List Call}
    (fails : FailsToAssign site setter value error calls) : error.site? = some site := by
  cases fails <;> rfl

theorem FailsToAssign.hook_not_mem {error : BindError} {calls : List Call}
    (fails : FailsToAssign site setter value error calls) (name : String) :
    .hook name ∉ calls := by
  cases fails <;> simp

theorem Assigns.ne_hook {made : Call} (assigns : Assigns setter value made) (name : String) :
    .hook name ≠ made := by
  cases assigns
  exact Call.noConfusion

theorem call_assigns (succeeded : (call setter site value state).failure = none) :
    ∃ made, Assigns setter value made ∧ (call setter site value state).calls = [made] := by
  cases setter with
  | none => cases succeeded
  | some setter =>
    rw [call_failure] at succeeded
    cases accepted : setter.accept value with
    | error error => simp [accepted] at succeeded
    | ok done => exact ⟨_, .intro accepted, call_calls value⟩

theorem call_failsToAssign {error : BindError}
    (failed : (call setter site value state).failure = some error) :
    FailsToAssign site setter value error (call setter site value state).calls := by
  cases setter with
  | none =>
    cases failed
    exact .unbound
  | some setter =>
    rw [call_failure] at failed
    rw [call_calls]
    cases refused : setter.accept value with
    | ok done => simp [refused] at failed
    | error given =>
      rw [refused] at failed
      cases failed
      exact .refused refused

end Call

/-! ## Stores -/

/-- The value that a field is bound to in a store: the one that stands for what is read there. -/
def StoreField.valueIn (field : StoreField) (s : Store) : Value :=
  field.type.realize ((field.setting (field.declare s)).read field.accessor)

/-- Whether steps can all be taken from a store, with these calls: one for each field, to its own
    setter. -/
inductive StoreStep.AllBind : Store → List StoreStep → List Call → Prop where
  | nil {s : Store} : AllBind s [] []
  | category {s : Store} {d : Decoration} {rest : List StoreStep} {calls : List Call}
      (later : AllBind (s.after [.category d]) rest calls) : AllBind s (.category d :: rest) calls
  | field {s : Store} {field : StoreField} {made : Call} {rest : List StoreStep}
      {calls : List Call} (assigns : Assigns field.setter (field.valueIn s) made)
      (later : AllBind (s.after [.field field]) rest calls) :
      AllBind s (.field field :: rest) (made :: calls)

def StoreField.Fails (field : StoreField) (s : Store) : BindError → List Call → Prop :=
  FailsToAssign (field.category ++ "." ++ field.key) field.setter (field.valueIn s)

theorem StoreStep.allBind_of_success {steps : List StoreStep} {s : Store}
    (succeeded : (Run.forEach StoreStep.run steps s).failure = none) :
    AllBind s steps (Run.forEach StoreStep.run steps s).calls := by
  induction steps generalizing s with
  | nil => exact .nil
  | cons step rest inductionHypothesis =>
    rw [Run.forEach] at succeeded ⊢
    cases outcome : (step.run s).failure with
    | some error =>
      rw [Run.andThen_of_failure outcome, outcome] at succeeded
      cases succeeded
    | none =>
      rw [Run.andThen_of_success outcome] at succeeded ⊢
      -- The steps that are left begin with the store that this one leaves, bound or not.
      have later := inductionHypothesis succeeded
      have met : (step.run s).state = s.after [step] := step.run_state s
      rw [met] at later ⊢
      cases step with
      | category d => exact .category later
      | field field =>
        obtain ⟨made, assigns, calls⟩ := call_assigns outcome
        have calls : ((StoreStep.field field).run s).calls = [made] := calls
        rw [calls]
        exact .field assigns later

/-- Whether a run of a loader stopped with an error at the first field that could not be bound: what
    the run did, and the store that it left. -/
structure StoreLoader.StopsAt (loader : StoreLoader) (s : Store) (error : BindError)
    (run : Run Store) (before : List StoreStep) (field : StoreField) : Prop where
  steps : ∃ after, loader.steps = before ++ .field field :: after
  calls : ∃ earlier own, StoreStep.AllBind s before earlier ∧
    field.Fails (s.after before) error own ∧ run.calls = earlier ++ own
  named : error.site? = some (field.category ++ "." ++ field.key)
  state : run.state = s.after (before ++ [.field field])

theorem StoreLoader.stopsAt_of_bind {loader : StoreLoader} {s : Store} {error : BindError}
    (failed : (loader.bind s).failure = some error) :
    ∃ before field, loader.StopsAt s error (loader.bind s) before field := by
  obtain ⟨before, step, after, split, reached, last, run⟩ := Run.exists_split_of_failure failed
  rw [StoreStep.forEach_state reached] at last run
  cases step with
  | category d => cases last
  | field field =>
    have fails : field.Fails (s.after before) error _ := call_failsToAssign last
    refine ⟨before, field, ⟨after, split⟩,
      ⟨_, _, StoreStep.allBind_of_success reached, fails, congrArg Run.calls run⟩, fails.names, ?_⟩
    have state := congrArg Run.state run
    rw [Store.after_append]
    exact state.trans (StoreStep.run_state (.field field) _)

theorem StoreStep.AllBind.hook_not_mem {s : Store} {steps : List StoreStep} {calls : List Call}
    (allBind : AllBind s steps calls) (name : String) : .hook name ∉ calls := by
  induction allBind with
  | nil => exact List.not_mem_nil
  | category _ inductionHypothesis => exact inductionHypothesis
  | field assigns _ inductionHypothesis =>
    exact List.not_mem_cons_of_ne_of_not_mem (assigns.ne_hook name) inductionHypothesis

/-- Only setters are called before a bind fails. -/
theorem StoreLoader.StopsAt.hook_not_mem {loader : StoreLoader} {s : Store} {error : BindError}
    {run : Run Store} {before : List StoreStep} {field : StoreField}
    (stops : loader.StopsAt s error run before field) (name : String) :
    .hook name ∉ run.calls := by
  obtain ⟨earlier, own, allBind, fails, calls⟩ := stops.calls
  rw [calls, List.mem_append]
  rintro (isEarlier | isOwn)
  · exact allBind.hook_not_mem name isEarlier
  · exact FailsToAssign.hook_not_mem fails name isOwn

/-- Binding comes before all else, so a sync that fails to bind does nothing else. -/
theorem StoreLoader.sync_of_bind_failure {loader : StoreLoader} {s : Store} {error : BindError}
    (failed : (loader.bind s).failure = some error) (files : Files) :
    loader.sync s files = (loader.bind s, files) := by
  simp only [sync, failed]

/-- A sync whose fields are all bound fails only to save. -/
theorem StoreLoader.bind_failure_of_sync {loader : StoreLoader} {s : Store} {files : Files}
    {error : BindError} (failed : (loader.sync s files).1.failure = some error)
    (ofField : error.site?.isSome) : (loader.bind s).failure = some error := by
  cases outcome : (loader.bind s).failure with
  | some first => rwa [sync_of_bind_failure outcome, outcome] at failed
  | none =>
    simp only [sync, outcome] at failed
    split at failed
    next => cases failed
    next =>
      cases failed
      cases ofField

/-! ## Properties -/

/-- The texts that a reading operation takes apart the text of a property into. -/
def Accessor.pieces (accessor : Accessor) (text : String) : List String :=
  if accessor.isList then listItems text else [text]

def PropertyField.Binds (source : PropertySource) (field : PropertyField) (made : Call) : Prop :=
  ∃ raw, source.lookup field.key field.accessor field.default = .ok raw ∧
    Assigns field.setter (field.type.realize raw) made

inductive PropertyField.Fails (source : PropertySource) (field : PropertyField) :
    BindError → List Call → Prop where
  | unreadable {text item : String} {front back : List String}
      (given : source field.key = some text)
      (pieces : field.accessor.pieces text = front ++ item :: back)
      (readable : ∀ earlier ∈ front, (field.accessor.scalar.parse? earlier).isSome)
      (unreadable : field.accessor.scalar.parse? item = none) :
      Fails source field (.parse ⟨field.key, item, field.accessor.scalar⟩) []
  | unassigned {raw : Value} {error : BindError} {calls : List Call}
      (found : source.lookup field.key field.accessor field.default = .ok raw)
      (fails : FailsToAssign field.key field.setter (field.type.realize raw) error calls) :
      Fails source field error calls

theorem PropertyField.Fails.names {source : PropertySource} {field : PropertyField}
    {error : BindError} {calls : List Call} (fails : field.Fails source error calls) :
    error.site? = some field.key := by
  cases fails with
  | unreadable => rfl
  | unassigned _ fails => exact fails.names

theorem ScalarType.parse_eq_error {type : ScalarType} {key text : String} {error : ParseError} :
    type.parse key text = .error error ↔ type.parse? text = none ∧ error = ⟨key, text, type⟩ := by
  unfold ScalarType.parse
  cases type.parse? text <;> simp [eq_comm]

theorem ScalarType.isSome_of_parse {type : ScalarType} {key text : String} {value : Value}
    (parsed : type.parse key text = .ok value) : (type.parse? text).isSome := by
  unfold ScalarType.parse at parsed
  split at parsed
  next found => rw [found]; rfl
  next => cases parsed

/-- The first piece that cannot be read is the one that an error tells about. -/
theorem Accessor.exists_piece_of_parse_error {accessor : Accessor} {key text : String}
    {error : ParseError} (failed : accessor.parse key text = .error error) :
    ∃ front item back, accessor.pieces text = front ++ item :: back ∧
      (∀ earlier ∈ front, (accessor.scalar.parse? earlier).isSome) ∧
      accessor.scalar.parse? item = none ∧ error = ⟨key, item, accessor.scalar⟩ := by
  rw [Accessor.parse_eq] at failed
  unfold Accessor.pieces
  split at failed
  next isList =>
    cases items : (listItems text).mapM (accessor.scalar.parse key) with
    | ok values =>
      rw [items] at failed
      cases failed
    | error first =>
      rw [items] at failed
      cases failed
      obtain ⟨front, item, back, split, notRead, read⟩ := exists_split_of_mapM_eq_error items
      refine ⟨front, item, back, by rw [if_pos isList, split], fun earlier isEarlier => ?_,
        ScalarType.parse_eq_error.mp notRead⟩
      obtain ⟨value, parsed⟩ := read earlier isEarlier
      exact ScalarType.isSome_of_parse parsed
  next isScalar =>
    refine ⟨[], text, [], if_neg isScalar, ?_, ScalarType.parse_eq_error.mp failed⟩
    intro _ isEarlier
    cases isEarlier

theorem PropertyField.binds_of_success {source : PropertySource} {field : PropertyField}
    (succeeded : (field.bind source ()).failure = none) :
    ∃ made, field.Binds source made ∧ (field.bind source ()).calls = [made] := by
  unfold PropertyField.bind at succeeded ⊢
  split at succeeded
  next => cases succeeded
  next raw found =>
    obtain ⟨made, assigns, calls⟩ := call_assigns succeeded
    exact ⟨made, ⟨raw, found, assigns⟩, calls⟩

theorem PropertyField.fails_of_failure {source : PropertySource} {field : PropertyField}
    {error : BindError} (failed : (field.bind source ()).failure = some error) :
    field.Fails source error (field.bind source ()).calls := by
  unfold PropertyField.bind at failed ⊢
  split at failed
  next parseError notFound =>
    cases failed
    unfold PropertySource.lookup at notFound
    split at notFound
    next => cases notFound
    next text given =>
      obtain ⟨front, item, back, pieces, readable, unreadable, rfl⟩ :=
        Accessor.exists_piece_of_parse_error notFound
      exact .unreadable given pieces readable unreadable
  next raw found => exact .unassigned found (call_failsToAssign failed)

theorem PropertyField.allBind_of_success {source : PropertySource} {fields : List PropertyField}
    (succeeded : (Run.forEach (PropertyField.bind source) fields ()).failure = none) :
    List.Forall₂ (PropertyField.Binds source) fields
      (Run.forEach (PropertyField.bind source) fields ()).calls := by
  induction fields with
  | nil => exact .nil
  | cons field rest inductionHypothesis =>
    rw [Run.forEach] at succeeded ⊢
    cases outcome : (field.bind source ()).failure with
    | some error =>
      rw [Run.andThen_of_failure outcome, outcome] at succeeded
      cases succeeded
    | none =>
      rw [Run.andThen_of_success outcome] at succeeded ⊢
      obtain ⟨made, binds, calls⟩ := PropertyField.binds_of_success outcome
      rw [calls]
      exact .cons binds (inductionHypothesis succeeded)

structure PropertyLoader.StopsAt (loader : PropertyLoader) (source : PropertySource)
    (error : BindError) (run : Run Unit) (before : List PropertyField) (field : PropertyField) :
    Prop where
  fields : ∃ after, loader.fields = before ++ field :: after
  calls : ∃ earlier own, List.Forall₂ (PropertyField.Binds source) before earlier ∧
    field.Fails source error own ∧ run.calls = earlier ++ own
  named : error.site? = some field.key

theorem PropertyLoader.stopsAt_of_init {loader : PropertyLoader} {source : PropertySource}
    {error : BindError} (failed : (loader.init source).failure = some error) :
    ∃ before field, loader.StopsAt source error (loader.init source) before field := by
  obtain ⟨before, field, after, split, reached, last, run⟩ := Run.exists_split_of_failure failed
  have fails := PropertyField.fails_of_failure last
  exact ⟨before, field, ⟨after, split⟩,
    ⟨_, _, PropertyField.allBind_of_success reached, fails, congrArg Run.calls run⟩, fails.names⟩

/-! ## Every way to bind -/

theorem StoreLoader.sync_stops {loader : StoreLoader} {s : Store} {files : Files}
    {error : BindError} (failed : (loader.sync s files).1.failure = some error)
    (ofField : error.site?.isSome) :
    (∃ before field, loader.StopsAt s error (loader.sync s files).1 before field) ∧
      (∀ name, .hook name ∉ (loader.sync s files).1.calls) ∧
      loader.sync s files = (loader.bind s, files) := by
  have bindFailed := bind_failure_of_sync failed ofField
  have onlyBinds := sync_of_bind_failure bindFailed files
  obtain ⟨before, field, stops⟩ := stopsAt_of_bind bindFailed
  rw [onlyBinds]
  exact ⟨⟨before, field, stops⟩, stops.hook_not_mem, rfl⟩

/-- A bind that fails at a field stops at the first one that cannot be bound and names it, has made
    the calls of the fields before it and at most one more to its own setter, has called nothing
    else, and has done nothing but bind, so all files are as they were. -/
theorem failed_bind_stops_and_saves_nothing :
    (∀ (loader : StoreLoader) (s : Store) (files : Files) (error : BindError),
        (loader.sync s files).1.failure = some error → error.site?.isSome →
          (∃ before field, loader.StopsAt s error (loader.sync s files).1 before field) ∧
            (∀ name, .hook name ∉ (loader.sync s files).1.calls) ∧
            loader.sync s files = (loader.bind s, files)) ∧
      (∀ (loader : StoreLoader) (path : String) (files : Files) (error : BindError),
        (loader.init path files).1.failure = some error → error.site?.isSome →
          ∃ loaded, (Store.atPath path).load files = .ok loaded ∧
            (∃ before field,
              loader.StopsAt loaded error (loader.init path files).1 before field) ∧
            (∀ name, .hook name ∉ (loader.init path files).1.calls) ∧
            loader.init path files = (loader.bind loaded, files)) ∧
      ∀ (loader : PropertyLoader) (source : PropertySource) (error : BindError),
        (loader.init source).failure = some error →
          ∃ before field, loader.StopsAt source error (loader.init source) before field := by
  refine ⟨fun loader s files error failed ofField => StoreLoader.sync_stops failed ofField,
    fun loader path files error failed ofField => ?_,
    fun loader source error failed => PropertyLoader.stopsAt_of_init failed⟩
  cases opened : (Store.atPath path).load files with
  | error loadError =>
    simp only [StoreLoader.init, opened] at failed
    cases failed
    cases ofField
  | ok loaded =>
    have synced : loader.init path files = loader.sync loaded files := by
      simp only [StoreLoader.init, opened]
    rw [synced] at failed ⊢
    exact ⟨loaded, rfl, StoreLoader.sync_stops failed ofField⟩

/-- A root with a method to call after a sync, and with a setter between two others that takes no
    value of the field's type. -/
def pumpRoot : ClassDecl :=
  { ClassDecl.named "Pump" with
    members :=
      [.nested
          { ClassDecl.named "Tank" with
            members :=
              [.field
                  { FieldDecl.named "level" (.primitive "int") with
                    setter := some (.slot "level" (.scalar .int)) },
                .field
                  { FieldDecl.named "limit" (.primitive "int") with
                    setter := some (.slot "limit" (.scalar .string)) },
                .field (FieldDecl.named "open" (.primitive "boolean"))] },
        .method { MethodDecl.named "prime" with markers := [.onSync], callable := true }] }

def pumpLayout : Layout := pumpRoot.survey.1.get rfl

def pumpFiles : Files := ⟨.directory [], []⟩

def pumpSource : PropertySource := fun key => if key = "Pump.Tank.level" then some "full" else none

theorem pumpFiles_load : (Store.atPath "pump").load pumpFiles = .ok (.atPath "pump") := by
  have route : Route.ofPath "pump" = .ok ⟨false, ["pump"], false⟩ :=
    Route.ofPath_relative (by decide +kernel)
  have absent : pumpFiles.exists? "pump" = false := by
    rw [Files.exists?, Files.node, route]
    rfl
  simp only [Store.load, Store.atPath, absent]
  rfl

/-- A setter that refuses its value stops the binding to a store, and a text that cannot be read
    stops the binding to properties. -/
theorem pumpLayout_failed_bind_stops :
    let loader := StoreLoader.ofLayout pumpLayout
    let properties := PropertyLoader.ofLayout pumpLayout
    loader.onSync.isSome ∧
      (∃ error before field, error.site? = some "tank.limit" ∧
        loader.StopsAt {} error (loader.sync {} pumpFiles).1 before field ∧
        loader.sync {} pumpFiles = (loader.bind {}, pumpFiles)) ∧
      (∃ error before field, error.site? = some "tank.limit" ∧
        loader.StopsAt (.atPath "pump") error (loader.init "pump" pumpFiles).1 before field ∧
        (loader.init "pump" pumpFiles).2 = pumpFiles) ∧
      ∃ error before field, error.site? = some "Pump.Tank.level" ∧
        properties.StopsAt pumpSource error (properties.init pumpSource) before field := by
  intro loader properties
  obtain ⟨ofSync, ofInit, ofProperties⟩ := failed_bind_stops_and_saves_nothing
  refine ⟨rfl, ?_, ?_, ?_⟩
  · have failure : (loader.sync {} pumpFiles).1.failure.bind BindError.site? =
        some "tank.limit" := by
      decide +kernel
    obtain ⟨error, failed, site⟩ := Option.bind_eq_some_iff.mp failure
    obtain ⟨⟨before, field, stops⟩, -, onlyBinds⟩ :=
      ofSync _ _ _ error failed (by rw [site]; rfl)
    exact ⟨error, before, field, site, stops, onlyBinds⟩
  · have failure : (loader.init "pump" pumpFiles).1.failure.bind BindError.site? =
        some "tank.limit" := by
      simp only [StoreLoader.init, pumpFiles_load]
      decide +kernel
    obtain ⟨error, failed, site⟩ := Option.bind_eq_some_iff.mp failure
    obtain ⟨loaded, isLoaded, ⟨before, field, stops⟩, -, onlyBinds⟩ :=
      ofInit _ _ _ error failed (by rw [site]; rfl)
    rw [pumpFiles_load] at isLoaded
    cases isLoaded
    exact ⟨error, before, field, site, stops, by rw [onlyBinds]⟩
  · have failure : (properties.init pumpSource).failure.bind BindError.site? =
        some "Pump.Tank.level" := by
      decide +kernel
    obtain ⟨error, failed, site⟩ := Option.bind_eq_some_iff.mp failure
    obtain ⟨before, field, stops⟩ := ofProperties _ _ error failed
    exact ⟨error, before, field, site, stops⟩

end ConfigBinding
