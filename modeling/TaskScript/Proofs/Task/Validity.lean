/-
When a task is configured correctly: every variable its fields hold is valid, and the rule of
its kind holds.  The check looks at sets of variables, each name once, so this needs that
variables of one name are all valid or all invalid.
-/
import Mathlib.Data.List.Dedup
import TaskScript.Proofs.Number.Value
import TaskScript.Proofs.Task.Lacking

namespace TaskScript

/-- A set holds only items of a list, and for each item one of the same name. -/
structure Covers (set items : List Variable) : Prop where
  subset : ∀ slot ∈ set, slot ∈ items
  names : ∀ slot ∈ items, ∃ kept ∈ set, slot.name = kept.name

namespace Covers

variable {set items more other : List Variable}

theorem contains_iff {slot : Variable} {items : List Variable} :
    Ascending.contains slot items = true ↔ ∃ kept ∈ items, slot.name = kept.name := by
  simp [Ascending.contains]

theorem refl (items : List Variable) : Covers items items :=
  ⟨fun _ h => h, fun slot h => ⟨slot, h, rfl⟩⟩

theorem ofList (items : List Variable) : Covers (AscendingSet.ofList items).items items := by
  refine ⟨fun _ => AscendingSet.mem_ofList_imp, ?_⟩
  intro slot hslot
  rw [← contains_iff, AscendingSet.ofList, Ascending.contains_ofList, contains_iff]
  exact ⟨slot, hslot, rfl⟩

theorem extend {set : VariableSet} (hset : Covers set.items items) (more : List Variable) :
    Covers (set.extend more).items (items ++ more) := by
  refine ⟨?_, ?_⟩
  · intro slot hslot
    exact List.mem_append.mpr ((AscendingSet.mem_extend_imp hslot).imp_left (hset.subset slot))
  · intro slot hslot
    rw [← contains_iff, AscendingSet.extend, Ascending.contains_extend, Bool.or_eq_true,
      contains_iff, contains_iff]
    exact (List.mem_append.mp hslot).imp (hset.names slot) fun h => ⟨slot, h, rfl⟩

theorem append {second : List Variable} (hset : Covers set items) (hsecond : Covers second more) :
    Covers (set ++ second) (items ++ more) := by
  refine ⟨?_, ?_⟩
  · intro slot hslot
    exact List.mem_append.mpr ((List.mem_append.mp hslot).imp (hset.subset slot)
      (hsecond.subset slot))
  · intro slot hslot
    rcases List.mem_append.mp hslot with h | h
    · obtain ⟨kept, hkept, hname⟩ := hset.names slot h
      exact ⟨kept, List.mem_append_left _ hkept, hname⟩
    · obtain ⟨kept, hkept, hname⟩ := hsecond.names slot h
      exact ⟨kept, List.mem_append_right _ hkept, hname⟩

theorem of_mem_iff (hset : Covers set items) (hmem : ∀ slot, slot ∈ items ↔ slot ∈ other) :
    Covers set other :=
  ⟨fun slot h => (hmem slot).mp (hset.subset slot h),
    fun slot h => hset.names slot ((hmem slot).mpr h)⟩

/-- A field that is all a set is made of. -/
theorem single {label : String} {field : Once label Variable} {set : VariableSet}
    (hset : (do return .single (← field.read) : Reading VariableSet) = .ok set) :
    Covers set.items field.value?.toList := by
  obtain ⟨_ | slot⟩ := field
  · cases hset
  · obtain rfl := Except.ok.inj hset
    exact .refl _

theorem names_iff (hset : Covers set items) {name : String} :
    name ∈ set.map Variable.name ↔ name ∈ items.map Variable.name := by
  simp only [List.mem_map]
  constructor
  · rintro ⟨slot, hslot, rfl⟩
    exact ⟨slot, hset.subset slot hslot, rfl⟩
  · rintro ⟨slot, hslot, rfl⟩
    obtain ⟨kept, hkept, hname⟩ := hset.names slot hslot
    exact ⟨kept, hkept, hname.symm⟩

/-- If variables of one name agree, the set holds only valid ones exactly if the list does. -/
theorem all_isValid_iff (hset : Covers set items)
    (hagree : ∀ x ∈ items, ∀ y ∈ items, x.name = y.name → x.isValid = y.isValid) :
    set.all Variable.isValid = true ↔ ∀ slot ∈ items, slot.isValid = true := by
  rw [List.all_eq_true]
  constructor
  · intro hall slot hslot
    obtain ⟨kept, hkept, hname⟩ := hset.names slot hslot
    rw [hagree slot hslot kept (hset.subset kept hkept) hname]
    exact hall kept hkept
  · exact fun hall slot hslot => hall slot (hset.subset slot hslot)

end Covers

theorem nodup_names_ofList (items : List Variable) :
    (VariableSet.names (.ofList items)).Nodup := by
  refine List.pairwise_map.mpr ((AscendingSet.ofList items).isSorted.imp ?_)
  intro x y hlt hname
  rw [Variable.compare_eq_eq_iff.mpr hname] at hlt
  cases hlt

/-- A set takes in everything when no two of the items share a name. -/
theorem mem_ofList_iff_of_nodup {items : List Variable} (hnodup : (items.map Variable.name).Nodup)
    {slot : Variable} : slot ∈ AscendingSet.ofList items ↔ slot ∈ items := by
  refine ⟨AscendingSet.mem_ofList_imp, fun hslot => ?_⟩
  obtain ⟨kept, hkept, hname⟩ := (Covers.ofList items).names slot hslot
  rwa [List.inj_on_of_nodup_map hnodup hslot (AscendingSet.mem_ofList_imp hkept) hname]

theorem size_ofList_eq_iff {items : List Variable} :
    (AscendingSet.ofList items).size = items.length ↔ (items.map Variable.name).Nodup := by
  have hperm : (VariableSet.names (.ofList items)).Perm (items.map Variable.name).dedup := by
    rw [List.perm_ext_iff_of_nodup (nodup_names_ofList items) (List.nodup_dedup _)]
    intro name
    rw [List.mem_dedup, VariableSet.names, (Covers.ofList items).names_iff]
  have hlength := hperm.length_eq
  rw [VariableSet.names, List.length_map] at hlength
  rw [AscendingSet.size, hlength]
  constructor
  · intro h
    have hdedup := (List.dedup_sublist (items.map Variable.name)).eq_of_length
      (h.trans (List.length_map _).symm)
    exact hdedup ▸ List.nodup_dedup _
  · intro h
    rw [h.dedup, List.length_map]

namespace Body

open Reading

/-- What the check of a task looks at are the variables of its fields, each name once. -/
theorem covers_used {body : Body} {used : List Variable} (hbuiltIn : body.isBuiltIn = true)
    (hused : body.used = .ok used) : Covers used body.named := by
  simp only [Body.used, bind_eq_ok_iff, pure_eq_ok_iff] at hused
  obtain ⟨inputs, hinputs, outputs, houtputs, rfl⟩ := hused
  cases body with
  | empty | enableEagerExecution =>
      obtain rfl := Except.ok.inj hinputs
      obtain rfl := Except.ok.inj houtputs
      exact .refl []
  | saveModel task | compileModel task =>
      obtain rfl := Except.ok.inj houtputs
      refine ((Covers.single hinputs).append (.refl [])).of_mem_iff ?_
      simp [named]
  | loadModel task | loadImage task | checkpointCallback task | csvLoggerCallback task =>
      obtain rfl := Except.ok.inj hinputs
      exact (Covers.refl []).append (.single houtputs)
  | applyLayerDelta task => exact (Covers.single hinputs).append (.single houtputs)
  | runInference task =>
      simp only [Body.inputs, RunInference.inputs, bind_eq_ok_iff, pure_eq_ok_iff,
        read_eq_ok_iff] at hinputs
      obtain ⟨model, hmodel, input, hinput, rfl⟩ := hinputs
      refine (((Covers.ofList _).extend _).append (.single houtputs)).of_mem_iff ?_
      simp [named, hmodel, hinput, or_comm]
  | runPlugin task =>
      simp only [Body.inputs, RunPlugin.inputs, Body.outputs, RunPlugin.outputs,
        bind_eq_ok_iff, pure_eq_ok_iff, read_eq_ok_iff] at hinputs houtputs
      obtain ⟨arguments, harguments, rfl⟩ := hinputs
      obtain ⟨results, hresults, rfl⟩ := houtputs
      simp only [named, harguments, hresults]
      exact (Covers.ofList _).append (.ofList _)
  | loadExampleDataset task =>
      simp only [Body.outputs, LoadExampleDataset.outputs, bind_eq_ok_iff, pure_eq_ok_iff,
        read_eq_ok_iff] at houtputs
      obtain rfl := Except.ok.inj hinputs
      obtain ⟨xTrain, hxTrain, yTrain, hyTrain, xTest, hxTest, yTest, hyTest, rfl⟩ := houtputs
      simp only [named, hxTrain, hyTrain, hxTest, hyTest]
      exact .ofList _
  | train task =>
      simp only [Body.inputs, Train.inputs, bind_eq_ok_iff, pure_eq_ok_iff,
        read_eq_ok_iff] at hinputs
      obtain ⟨model, hmodel, input, hinput, output, houtput, rfl⟩ := hinputs
      obtain rfl := Except.ok.inj houtputs
      refine (((Covers.ofList _).extend _).append (.refl _)).of_mem_iff ?_
      simp [named, hmodel, hinput, houtput, or_comm, or_left_comm]
  | custom task => cases hbuiltIn

/-- The rule of a kind, apart from its variables. -/
def Rule (env : Environment) : Body → Prop
  | loadModel t => ∃ path ∈ t.modelPath.value?, env.acceptsPath path = true
  | saveModel t => ∃ path ∈ t.modelPath.value?, env.acceptsPath path = true
  | loadImage t => ∃ path ∈ t.imagePath.value?, env.acceptsPath path = true
  | csvLoggerCallback t => ∃ path ∈ t.logFilePath.value?, env.acceptsPath path = true
  | checkpointCallback t =>
      (∃ path ∈ t.filePath.value?, env.acceptsPath path = true) ∧
        (t.mode = "auto" ∨ t.mode = "min" ∨ t.mode = "max")
  | runPlugin t => ∃ function ∈ t.functionName.value?, env.acceptsName function = true
  | applyLayerDelta t =>
      ∃ current ∈ t.currentLayers.value?, ∃ new ∈ t.newLayers.value?, ∀ layer ∈ new,
        (∃ known ∈ current, known.name = layer.name) ∨ ∃ built, layer.constructor? = some built
  | loadExampleDataset t =>
      ∃ xTrain ∈ t.xTrainOutput.value?, ∃ yTrain ∈ t.yTrainOutput.value?,
        ∃ xTest ∈ t.xTestOutput.value?, ∃ yTest ∈ t.yTestOutput.value?,
          [xTrain.name, yTrain.name, xTest.name, yTest.name].Nodup
  | train t =>
      (t.validationInput.isSome ↔ t.validationOutput.isSome) ∧
        0 ≤ t.validationSplit.value ∧ t.validationSplit.value < 1 ∧ 0 < t.epochs
  | empty | enableEagerExecution | runInference _ | compileModel _ | custom _ => True

/-- A rule that looks at one field. -/
theorem accepted_iff {label : String} {field : Once label String} {accepts : String → Bool}
    {passed : Bool} (hpassed : (do return accepts (← field.read) : Reading Bool) = .ok passed) :
    passed = true ↔ ∃ text ∈ field.value?, accepts text = true := by
  obtain ⟨_ | text⟩ := field
  · cases hpassed
  · obtain rfl := Except.ok.inj hpassed
    simp

theorem isSome_source?_iff {current : List Layer} {layer : Layer} :
    (ApplyLayerDelta.source? current layer).isSome = true ↔
      (∃ known ∈ current, known.name = layer.name) ∨
        ∃ expression, layer.constructor? = some expression := by
  unfold ApplyLayerDelta.source?
  split
  · rename_i hknown
    exact iff_of_true rfl (.inl (by simpa using hknown))
  · rename_i hunknown
    rw [Option.isSome_map, Option.isSome_iff_exists]
    exact ⟨.inr, fun h => h.resolve_left (by simpa using hunknown)⟩

theorem check_eq_true_iff {env : Environment} {body : Body} {passed : Bool}
    (hbuiltIn : body.isBuiltIn = true) (hcheck : body.check env = .ok passed) :
    passed = true ↔ body.Rule env := by
  cases body with
  | empty | enableEagerExecution | runInference | compileModel =>
      obtain rfl := Except.ok.inj hcheck
      simp [Rule]
  | loadModel task | saveModel task | loadImage task | csvLoggerCallback task =>
      exact accepted_iff hcheck
  | checkpointCallback task =>
      simp only [check, CheckpointCallback.check] at hcheck
      have hmode : task.mode ∈ CheckpointCallback.modes ↔
          task.mode = "auto" ∨ task.mode = "min" ∨ task.mode = "max" := by
        simp [CheckpointCallback.modes]
      rw [Rule, ← hmode]
      split at hcheck
      · rename_i hknown
        rw [accepted_iff hcheck, and_iff_left hknown]
      · rename_i hunknown
        obtain rfl := Except.ok.inj hcheck
        simp [hunknown]
  | runPlugin task =>
      simp only [check, RunPlugin.check] at hcheck
      obtain ⟨_, _, hname⟩ := bind_eq_ok_iff.mp hcheck
      exact accepted_iff hname
  | applyLayerDelta task =>
      simp only [check, ApplyLayerDelta.check, bind_eq_ok_iff, pure_eq_ok_iff,
        read_eq_ok_iff] at hcheck
      obtain ⟨current, hcurrent, new, hnew, rfl⟩ := hcheck
      simp [Rule, hcurrent, hnew, isSome_source?_iff]
  | loadExampleDataset task =>
      simp only [check, LoadExampleDataset.check, LoadExampleDataset.outputs, bind_eq_ok_iff,
        pure_eq_ok_iff, read_eq_ok_iff] at hcheck
      obtain ⟨_, ⟨xTrain, hxTrain, yTrain, hyTrain, xTest, hxTest, yTest, hyTest, rfl⟩, rfl⟩ :=
        hcheck
      have hnodup := @size_ofList_eq_iff [xTrain, yTrain, xTest, yTest]
      simpa [Rule, hxTrain, hyTrain, hxTest, hyTest] using hnodup
  | train task =>
      obtain rfl := Except.ok.inj hcheck
      rw [Rule, ← and_assoc (a := 0 ≤ _), ← Binary64.inUnitInterval_iff]
      simp [Train.check, and_assoc]
  | custom task => cases hbuiltIn

/-- Variables of one name are all valid or all invalid. -/
def NamesAgree (body : Body) : Prop :=
  ∀ x ∈ body.named, ∀ y ∈ body.named, x.name = y.name → x.isValid = y.isValid

instance (body : Body) : Decidable body.NamesAgree :=
  inferInstanceAs (Decidable (∀ x ∈ body.named, ∀ y ∈ body.named,
    x.name = y.name → x.isValid = y.isValid))

/-- A task whose fields are all assigned is told whether it is configured correctly. -/
theorem exists_isConfigured_eq_ok {env : Environment} {body : Body}
    (hbuiltIn : body.isBuiltIn = true) (hwaiting : body.waiting = []) (hagree : body.NamesAgree) :
    ∃ passed, body.isConfigured env = .ok passed ∧
      (passed = true ↔ (∀ slot ∈ body.named, slot.isValid = true) ∧ body.Rule env) := by
  have hchecked : ∀ name, ¬ (name ∈ body.waitingInputs ++ body.waitingOutputs ∨
      name ∈ body.waitingRule) :=
    fun name h => by simpa [hwaiting] using mem_waiting_of_checked h
  obtain ⟨used, hused⟩ := (lacks_used hbuiltIn).exists_ok_of_forall_notMem
    fun name h => hchecked name (.inl h)
  obtain ⟨passed, hpassed⟩ := (lacks_check env hbuiltIn).exists_ok_of_forall_notMem
    fun name h => hchecked name (.inr h)
  have hvalid := (covers_used hbuiltIn hused).all_isValid_iff hagree
  rw [isConfigured_eq, hused, ← hvalid, ← check_eq_true_iff hbuiltIn hpassed]
  cases hall : used.all Variable.isValid with
  | true => exact ⟨passed, by simpa [bind, Except.bind, hall] using hpassed, by simp⟩
  | false => exact ⟨false, by simp [bind, Except.bind, hall], by simp⟩

/-- A task that is configured correctly passes its check. -/
theorem check_of_isConfigured {env : Environment} {body : Body}
    (hconfigured : body.isConfigured env = .ok true) : body.check env = .ok true := by
  rw [isConfigured_eq, bind_eq_ok_iff] at hconfigured
  obtain ⟨used, _, hpassed⟩ := hconfigured
  split at hpassed
  · exact hpassed
  · cases hpassed

/-- A task that is configured correctly has a valid variable of each name it holds. -/
theorem exists_valid_of_isConfigured {env : Environment} {body : Body}
    (hconfigured : body.isConfigured env = .ok true) {slot : Variable} (hslot : slot ∈ body.named) :
    ∃ checked ∈ body.named, checked.name = slot.name ∧ checked.isValid = true := by
  have hbuiltIn : body.isBuiltIn = true := by
    cases body with
    | custom task => cases hslot
    | _ => rfl
  rw [isConfigured_eq, bind_eq_ok_iff] at hconfigured
  obtain ⟨used, hused, hpassed⟩ := hconfigured
  have hcovers := covers_used hbuiltIn hused
  obtain ⟨checked, hchecked, hname⟩ := hcovers.names slot hslot
  refine ⟨checked, hcovers.subset checked hchecked, hname.symm, ?_⟩
  split at hpassed
  · rename_i hall
    exact List.all_eq_true.mp hall checked hchecked
  · cases hpassed

end Body

end TaskScript
