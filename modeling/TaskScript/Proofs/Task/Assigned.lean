/-
What a task holds after any number of assignments, those that fail included.  An assignment offers
values to fields of the task; so a field holds the first value that it was given, and only an
assignment with two values can fail and yet leave something behind.
-/
import TaskScript.Proofs.Task.Record
import TaskScript.Task.Assignment

namespace TaskScript

open Record

variable {label : String} {α τ : Type}

/-- What is read from a field. -/
def Once.reading (field : Once label α) (wrap : α → FieldValue) : Reading FieldValue :=
  field.read.map wrap

theorem Once.reading_eq_error_iff {field : Once label α} {wrap : α → FieldValue}
    {error : Unassigned} :
    field.reading wrap = .error error ↔ field.isAssigned = false ∧ error = ⟨label⟩ := by
  rw [← read_eq_error_iff, reading]
  cases field.read <;> simp [Except.map]

/-- The fields of a task that are assigned once.  A custom task has none. -/
def Body.fields : Body → Record
  | empty | enableEagerExecution | custom _ => []
  | loadModel t =>
      [(.modelPath, t.modelPath.reading .text), (.modelOutput, t.modelOutput.reading .slot)]
  | saveModel t =>
      [(.modelInput, t.modelInput.reading .slot), (.modelPath, t.modelPath.reading .text)]
  | loadImage t =>
      [(.imagePath, t.imagePath.reading .text), (.imageOutput, t.imageOutput.reading .slot)]
  | loadExampleDataset t =>
      [(.dataset, t.dataset.reading .dataset), (.xTrainOutput, t.xTrainOutput.reading .slot),
        (.yTrainOutput, t.yTrainOutput.reading .slot), (.xTestOutput, t.xTestOutput.reading .slot),
        (.yTestOutput, t.yTestOutput.reading .slot)]
  | runInference t =>
      [(.model, t.model.reading .slot), (.input, t.input.reading .slot),
        (.output, t.output.reading .slot)]
  | runPlugin t =>
      [(.functionName, t.functionName.reading .text),
        (.functionDefinition, t.functionDefinition.reading .text),
        (.functionInputs, t.functionInputs.reading .slots),
        (.functionOutputs, t.functionOutputs.reading .slots)]
  | applyLayerDelta t =>
      [(.modelInput, t.modelInput.reading .slot),
        (.currentLayers, t.currentLayers.reading .layers),
        (.newLayers, t.newLayers.reading .layers),
        (.newModelOutput, t.newModelOutput.reading .slot)]
  | compileModel t =>
      [(.modelInput, t.modelInput.reading .slot), (.optimizer, t.optimizer.reading .optimizer),
        (.loss, t.loss.reading .loss)]
  | train t =>
      [(.modelInput, t.modelInput.reading .slot), (.trainInput, t.trainInput.reading .slot),
        (.trainOutput, t.trainOutput.reading .slot)]
  | checkpointCallback t =>
      [(.filePath, t.filePath.reading .text), (.output, t.output.reading .slot)]
  | csvLoggerCallback t =>
      [(.logFilePath, t.logFilePath.reading .text), (.output, t.output.reading .slot)]

/-- The values that an assignment has for fields that are assigned once, in the order in which it
offers them.  The other fields take any number of values. -/
def Assignment.offers : Assignment → List Offer
  | modelPath path => [(.modelPath, .text path)]
  | modelInput data => [(.modelInput, .slot data)]
  | modelOutput data => [(.modelOutput, .slot data)]
  | imagePath path => [(.imagePath, .text path)]
  | imageOutput data => [(.imageOutput, .slot data)]
  | dataset source => [(.dataset, .dataset source)]
  | xTrainOutput data => [(.xTrainOutput, .slot data)]
  | yTrainOutput data => [(.yTrainOutput, .slot data)]
  | xTestOutput data => [(.xTestOutput, .slot data)]
  | yTestOutput data => [(.yTestOutput, .slot data)]
  | model data => [(.model, .slot data)]
  | input data => [(.input, .slot data)]
  | output data => [(.output, .slot data)]
  | functionName name => [(.functionName, .text name)]
  | functionDefinition source => [(.functionDefinition, .text source)]
  | functionInputs arguments => [(.functionInputs, .slots arguments)]
  | functionOutputs results => [(.functionOutputs, .slots results)]
  | usePlugin plugin function =>
      [(.functionDefinition, .text plugin.contents), (.functionName, .text function)]
  | currentLayers layers => [(.currentLayers, .layers layers)]
  | newLayers layers => [(.newLayers, .layers layers)]
  | newModelOutput data => [(.newModelOutput, .slot data)]
  | optimizer choice => [(.optimizer, .optimizer choice)]
  | loss choice => [(.loss, .loss choice)]
  | trainInput data => [(.trainInput, .slot data)]
  | trainOutput data => [(.trainOutput, .slot data)]
  | filePath path => [(.filePath, .text path)]
  | logFilePath path => [(.logFilePath, .text path)]
  | _ => []

/-- The outcome of an assignment to a task: it offers its values to the fields of the task, and if
it has but one value and that is refused, nothing of the task changes. -/
structure Puts (view : τ → Record) (task : τ) (offers : List Offer)
    (outcome : τ × Except Reassigned Unit) : Prop where
  record : view outcome.1 = ((view task).offer offers).1
  result : outcome.2 = ((view task).offer offers).2
  unchanged : offers.length ≤ 1 → ∀ error, outcome.2 = .error error → outcome.1 = task

theorem Once.puts_assignIn {view : τ → Record} {task : τ} {field : Once label α} {value : α}
    {store : Once label α → τ} {name : FieldName} {wrap : α → FieldValue}
    (hlabel : name.label = label) (hread : (view task).get? name = some (field.reading wrap))
    (hstore : view (store ⟨some value⟩) = (view task).put name (wrap value)) :
    Puts view task [(name, wrap value)] (field.assignIn task value store) := by
  subst hlabel
  obtain ⟨_ | kept⟩ := field
  · have hfree : ∀ kept, (view task).get? name ≠ some (.ok kept) := by
      intro kept h
      rw [hread] at h
      cases h
    have htaken := Record.offer_cons_of_taken hfree (wrap value) []
    rw [← hstore] at htaken
    exact ⟨congrArg Prod.fst htaken.symm, congrArg Prod.snd htaken.symm, nofun⟩
  · have hrefused := Record.offer_cons_of_refused hread (wrap value) []
    exact ⟨congrArg Prod.fst hrefused.symm, congrArg Prod.snd hrefused.symm, fun _ _ _ => rfl⟩

/-- A plugin is offered in two parts; the second may be refused after the first was taken. -/
theorem RunPlugin.puts_usePlugin (task : RunPlugin) (plugin : Plugin) (function : String) :
    Puts (fun task => (Body.runPlugin task).fields) task
      (Assignment.usePlugin plugin function).offers (task.usePlugin plugin function) := by
  have htwo : ¬ (Assignment.usePlugin plugin function).offers.length ≤ 1 := Nat.not_succ_le_self 1
  obtain ⟨⟨_ | name⟩, ⟨_ | definition⟩, arguments, results⟩ := task
  all_goals exact ⟨rfl, rfl, fun h => absurd h htwo⟩

theorem LoadModel.puts (task : LoadModel) (assignment : Assignment) :
    Puts (fun task => (Body.loadModel task).fields) task assignment.offers
      (task.assign assignment) := by
  cases assignment with
  | modelPath path => exact Once.puts_assignIn rfl rfl rfl
  | modelOutput data => exact Once.puts_assignIn rfl rfl rfl
  | _ => exact ⟨rfl, rfl, nofun⟩

theorem SaveModel.puts (task : SaveModel) (assignment : Assignment) :
    Puts (fun task => (Body.saveModel task).fields) task assignment.offers
      (task.assign assignment) := by
  cases assignment with
  | modelInput data => exact Once.puts_assignIn rfl rfl rfl
  | modelPath path => exact Once.puts_assignIn rfl rfl rfl
  | _ => exact ⟨rfl, rfl, nofun⟩

theorem LoadImage.puts (task : LoadImage) (assignment : Assignment) :
    Puts (fun task => (Body.loadImage task).fields) task assignment.offers
      (task.assign assignment) := by
  cases assignment with
  | imagePath path => exact Once.puts_assignIn rfl rfl rfl
  | imageOutput data => exact Once.puts_assignIn rfl rfl rfl
  | _ => exact ⟨rfl, rfl, nofun⟩

theorem LoadExampleDataset.puts (task : LoadExampleDataset) (assignment : Assignment) :
    Puts (fun task => (Body.loadExampleDataset task).fields) task assignment.offers
      (task.assign assignment) := by
  cases assignment with
  | dataset source => exact Once.puts_assignIn rfl rfl rfl
  | xTrainOutput data => exact Once.puts_assignIn rfl rfl rfl
  | yTrainOutput data => exact Once.puts_assignIn rfl rfl rfl
  | xTestOutput data => exact Once.puts_assignIn rfl rfl rfl
  | yTestOutput data => exact Once.puts_assignIn rfl rfl rfl
  | _ => exact ⟨rfl, rfl, nofun⟩

theorem RunInference.puts (task : RunInference) (assignment : Assignment) :
    Puts (fun task => (Body.runInference task).fields) task assignment.offers
      (task.assign assignment) := by
  cases assignment with
  | model data => exact Once.puts_assignIn rfl rfl rfl
  | input data => exact Once.puts_assignIn rfl rfl rfl
  | output data => exact Once.puts_assignIn rfl rfl rfl
  | _ => exact ⟨rfl, rfl, nofun⟩

theorem RunPlugin.puts (task : RunPlugin) (assignment : Assignment) :
    Puts (fun task => (Body.runPlugin task).fields) task assignment.offers
      (task.assign assignment) := by
  cases assignment with
  | functionName name => exact Once.puts_assignIn rfl rfl rfl
  | functionDefinition source => exact Once.puts_assignIn rfl rfl rfl
  | functionInputs arguments => exact Once.puts_assignIn rfl rfl rfl
  | functionOutputs results => exact Once.puts_assignIn rfl rfl rfl
  | usePlugin plugin function => exact task.puts_usePlugin plugin function
  | _ => exact ⟨rfl, rfl, nofun⟩

theorem ApplyLayerDelta.puts (task : ApplyLayerDelta) (assignment : Assignment) :
    Puts (fun task => (Body.applyLayerDelta task).fields) task assignment.offers
      (task.assign assignment) := by
  cases assignment with
  | modelInput data => exact Once.puts_assignIn rfl rfl rfl
  | currentLayers layers => exact Once.puts_assignIn rfl rfl rfl
  | newLayers layers => exact Once.puts_assignIn rfl rfl rfl
  | newModelOutput data => exact Once.puts_assignIn rfl rfl rfl
  | _ => exact ⟨rfl, rfl, nofun⟩

theorem CompileModel.puts (task : CompileModel) (assignment : Assignment) :
    Puts (fun task => (Body.compileModel task).fields) task assignment.offers
      (task.assign assignment) := by
  cases assignment with
  | modelInput data => exact Once.puts_assignIn rfl rfl rfl
  | optimizer choice => exact Once.puts_assignIn rfl rfl rfl
  | loss choice => exact Once.puts_assignIn rfl rfl rfl
  | _ => exact ⟨rfl, rfl, nofun⟩

theorem Train.puts (task : Train) (assignment : Assignment) :
    Puts (fun task => (Body.train task).fields) task assignment.offers
      (task.assign assignment) := by
  cases assignment with
  | modelInput data => exact Once.puts_assignIn rfl rfl rfl
  | trainInput data => exact Once.puts_assignIn rfl rfl rfl
  | trainOutput data => exact Once.puts_assignIn rfl rfl rfl
  | _ => exact ⟨rfl, rfl, nofun⟩

theorem CheckpointCallback.puts (task : CheckpointCallback) (assignment : Assignment) :
    Puts (fun task => (Body.checkpointCallback task).fields) task assignment.offers
      (task.assign assignment) := by
  cases assignment with
  | filePath path => exact Once.puts_assignIn rfl rfl rfl
  | output data => exact Once.puts_assignIn rfl rfl rfl
  | _ => exact ⟨rfl, rfl, nofun⟩

theorem CsvLoggerCallback.puts (task : CsvLoggerCallback) (assignment : Assignment) :
    Puts (fun task => (Body.csvLoggerCallback task).fields) task assignment.offers
      (task.assign assignment) := by
  cases assignment with
  | logFilePath path => exact Once.puts_assignIn rfl rfl rfl
  | output data => exact Once.puts_assignIn rfl rfl rfl
  | _ => exact ⟨rfl, rfl, nofun⟩

theorem Puts.map {wrap : τ → Body} {task : τ} {offers : List Offer}
    {outcome : τ × Except Reassigned Unit}
    (h : Puts (fun task => (wrap task).fields) task offers outcome) :
    Puts Body.fields (wrap task) offers (outcome.map wrap id) :=
  ⟨h.record, h.result, fun hone error herror => congrArg wrap (h.unchanged hone error herror)⟩

theorem Puts.of_empty {body next : Body} {offers : List Offer} (hbody : body.fields = [])
    (hnext : next.fields = []) : Puts Body.fields body offers (next, .ok ()) := by
  refine ⟨?_, ?_, nofun⟩
  · rw [hbody, Record.offer_empty, hnext]
  · rw [hbody, Record.offer_empty]

theorem Body.puts (body : Body) (assignment : Assignment) :
    Puts Body.fields body assignment.offers (body.assign assignment) := by
  cases body with
  | empty => exact .of_empty rfl rfl
  | enableEagerExecution => exact .of_empty rfl rfl
  | custom task => exact .of_empty rfl rfl
  | loadModel task => exact (task.puts assignment).map
  | saveModel task => exact (task.puts assignment).map
  | loadImage task => exact (task.puts assignment).map
  | loadExampleDataset task => exact (task.puts assignment).map
  | runInference task => exact (task.puts assignment).map
  | runPlugin task => exact (task.puts assignment).map
  | applyLayerDelta task => exact (task.puts assignment).map
  | compileModel task => exact (task.puts assignment).map
  | train task => exact (task.puts assignment).map
  | checkpointCallback task => exact (task.puts assignment).map
  | csvLoggerCallback task => exact (task.puts assignment).map

/-- No assignment has two values for one field. -/
theorem Assignment.nodup_offers (assignment : Assignment) :
    (assignment.offers.map (·.1.label)).Nodup := by
  cases assignment with
  | usePlugin plugin function => simp [offers, FieldName.label]
  | _ => simp [offers]

/-- Only a plugin has values for more than one field. -/
theorem Assignment.length_offers {assignment : Assignment}
    (hother : ∀ plugin function, assignment ≠ usePlugin plugin function) :
    assignment.offers.length ≤ 1 := by
  cases assignment with
  | usePlugin plugin function => exact absurd rfl (hother plugin function)
  | _ => simp [offers]

namespace Body

/-- What is read from a field, if the task has it. -/
def get? (body : Body) (field : FieldName) : Option (Reading FieldValue) := body.fields.get? field

/-- The task after a number of assignments, whether or not they fail. -/
def after (body : Body) (assignments : List Assignment) : Body :=
  assignments.foldl (fun body assignment => (body.assign assignment).1) body

/-- The values that fields were given on the way. -/
def given (body : Body) : List Assignment → List Offer
  | [] => []
  | assignment :: rest =>
      granted assignment.offers (body.assign assignment).2 ++
        (body.assign assignment).1.given rest

theorem get?_assign (body : Body) (assignment : Assignment) (field : FieldName) :
    (body.assign assignment).1.get? field = settled (body.get? field)
      (firstFor? (granted assignment.offers (body.assign assignment).2) field) := by
  have hputs := body.puts assignment
  rw [get?, hputs.record, hputs.result]
  exact Record.get?_offer assignment.nodup_offers field

theorem get?_after (body : Body) (assignments : List Assignment) (field : FieldName) :
    (body.after assignments).get? field =
      settled (body.get? field) (firstFor? (body.given assignments) field) := by
  induction assignments generalizing body with
  | nil => exact (settled_none _).symm
  | cons assignment rest ih =>
      have hafter : body.after (assignment :: rest) =
        (body.assign assignment).1.after rest := rfl
      rw [hafter, ih, get?_assign, settled_settled, given, firstFor?_append]

/-- An assignment fails exactly when one of its fields holds a value. -/
theorem assign_fails_iff (body : Body) (assignment : Assignment) :
    (∃ error, (body.assign assignment).2 = .error error) ↔
      ∃ offer ∈ assignment.offers, ∃ kept, body.get? offer.1 = some (.ok kept) := by
  rw [(body.puts assignment).result]
  exact Record.offer_fails_iff assignment.nodup_offers

theorem forall_mem_fields (body : Body) : ∀ held ∈ body.fields, ∀ error,
    held.2 = .error error → error = ⟨held.1.label⟩ := by
  cases body
  all_goals simp +contextual [fields, Once.reading_eq_error_iff, FieldName.label]

/-- A field that holds nothing is named when it is read. -/
theorem eq_of_get?_eq_error {body : Body} {field : FieldName} {error : Unassigned}
    (herror : body.get? field = some (.error error)) : error = ⟨field.label⟩ := by
  obtain ⟨held, hheld, hread⟩ := Option.map_eq_some_iff.mp herror
  obtain rfl : held.1 = field := by simpa using List.find?_some hheld
  exact forall_mem_fields body held (List.mem_of_find?_eq_some hheld) error hread

/-- What an assignment that fails leaves behind. -/
theorem assign_of_error {body : Body} {assignment : Assignment} {error : Reassigned}
    (herror : (body.assign assignment).2 = .error error) :
    (body.assign assignment).1 = body ∨
      ∃ task plugin function name, body = .runPlugin task ∧
        assignment = .usePlugin plugin function ∧ task.functionDefinition.value? = none ∧
        task.functionName.value? = some name ∧ error = ⟨FieldName.functionName.label⟩ ∧
        (body.assign assignment).1 =
          .runPlugin { task with functionDefinition := ⟨some plugin.contents⟩ } := by
  by_cases hplugin : ∃ plugin function, assignment = .usePlugin plugin function
  · obtain ⟨plugin, function, rfl⟩ := hplugin
    cases body with
    | runPlugin task =>
        obtain ⟨⟨_ | name⟩, ⟨_ | definition⟩, arguments, results⟩ := task
        · cases herror
        · exact .inl rfl
        · exact .inr ⟨_, plugin, function, name, rfl, rfl, rfl, rfl,
            (Except.error.inj herror).symm, rfl⟩
        · exact .inl rfl
    | _ => cases herror
  · left
    refine (body.puts assignment).unchanged (Assignment.length_offers ?_) error herror
    exact fun plugin function h => hplugin ⟨plugin, function, h⟩

/-- Whatever is assigned to a task, a field that holds a value keeps it, and one that does not
holds afterwards the first value that it was given, or is named when it is read.  An assignment
fails exactly when one of its fields holds a value.  The task is then as it was before, unless the
name of the function was assigned and its definition was not: a plugin that is refused by the name
leaves its text as the definition. -/
theorem holds_first_given (body : Body) (assignments : List Assignment) :
    (∀ field value, body.get? field = some (.ok value) →
      (body.after assignments).get? field = some (.ok value)) ∧
    (∀ field error, body.get? field = some (.error error) →
      (∀ value, (body.after assignments).get? field = some (.ok value) ↔
        firstFor? (body.given assignments) field = some value) ∧
      ((body.after assignments).get? field = some (.error ⟨field.label⟩) ↔
        firstFor? (body.given assignments) field = none)) ∧
    (∀ assignment, (∃ error, ((body.after assignments).assign assignment).2 = .error error) ↔
      ∃ offer ∈ assignment.offers, ∃ kept,
        (body.after assignments).get? offer.1 = some (.ok kept)) ∧
    ∀ assignment error, ((body.after assignments).assign assignment).2 = .error error →
      ((body.after assignments).assign assignment).1 = body.after assignments ∨
      ∃ task plugin function name, body.after assignments = .runPlugin task ∧
        assignment = .usePlugin plugin function ∧ task.functionDefinition.value? = none ∧
        task.functionName.value? = some name ∧ error = ⟨FieldName.functionName.label⟩ ∧
        ((body.after assignments).assign assignment).1 =
          .runPlugin { task with functionDefinition := ⟨some plugin.contents⟩ } := by
  refine ⟨?_, ?_, fun assignment => assign_fails_iff _ assignment,
    fun assignment error => assign_of_error⟩
  · intro field value hheld
    rw [get?_after, hheld, settled_ok]
  · intro field error hread
    obtain rfl := eq_of_get?_eq_error hread
    rw [get?_after, hread]
    exact ⟨fun value => settled_unassigned, settled_unassigned_error⟩

/-- A function is named, then a plugin is used for another one. -/
def renamed : List Assignment :=
  [.functionName "f", .usePlugin ⟨"lib", "def g(): pass"⟩ "g", .functionDefinition "def f(): pass"]

theorem holds_first_given_renamed :
    (runPlugin {}).get? .functionName = some (.error ⟨"function_name"⟩) ∧
      ((runPlugin {}).after renamed).get? .functionName = some (.ok (.text "f")) ∧
      ((runPlugin {}).after renamed).get? .functionDefinition =
        some (.ok (.text "def g(): pass")) ∧
      (((runPlugin {}).after renamed).after [.functionName "g"]).get? .functionName =
        some (.ok (.text "f")) := by
  obtain ⟨_, hgiven, _⟩ := holds_first_given (runPlugin {}) renamed
  have hname := ((hgiven .functionName _ rfl).1 (.text "f")).mpr rfl
  have hdefinition := ((hgiven .functionDefinition _ rfl).1 (.text "def g(): pass")).mpr rfl
  obtain ⟨hkept, _⟩ := holds_first_given ((runPlugin {}).after renamed) [.functionName "g"]
  exact ⟨rfl, hname, hdefinition, hkept .functionName _ hname⟩

/-- An assignment that fails may change a field. -/
theorem not_always_unchanged :
    ¬ ∀ (body : Body) (assignments : List Assignment) (assignment : Assignment)
      (error : Reassigned), ((body.after assignments).assign assignment).2 = .error error →
        ∀ field, ((body.after assignments).assign assignment).1.get? field =
          (body.after assignments).get? field := by
  intro hunchanged
  have hsame := hunchanged (runPlugin {}) [.functionName "f"]
    (.usePlugin ⟨"lib", "def g(): pass"⟩ "g") ⟨"function_name"⟩ rfl .functionDefinition
  have hafter : some (Except.ok (FieldValue.text "def g(): pass")) =
    some (Except.error (Unassigned.mk "function_definition")) := hsame
  cases hafter

end Body

end TaskScript
